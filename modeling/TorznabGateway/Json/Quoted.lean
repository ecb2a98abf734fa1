import TorznabGateway.Text.Hex
import TorznabGateway.Text.Utf8

/-!
# String literals

The inside of a JSON string literal. Writing escapes the quote, the backslash and the control
characters below U+0020 and keeps everything else. Reading resolves escapes; the bytes must then be
UTF-8, and a surrogate is read only as the first or second half of a pair.
-/
namespace TorznabGateway.Json.Quoted

open Text

/-- The spelling of one character. -/
def escapeChar (c : Char) : List Char :=
  if c = '"' then ['\\', '"']
  else if c = '\\' then ['\\', '\\']
  else if c = '\x08' then ['\\', 'b']
  else if c = '\x0c' then ['\\', 'f']
  else if c = '\n' then ['\\', 'n']
  else if c = '\r' then ['\\', 'r']
  else if c = '\t' then ['\\', 't']
  else if c.toNat < 0x20 then
    ['\\', 'u', '0', '0', Hex.digit (c.toNat / 16), Hex.digit (c.toNat % 16)]
  else [c]

/-- The spelling of a text. -/
def escape (s : String) : List Char :=
  s.toList.flatMap escapeChar

/-- The value of an ASCII byte as a hexadecimal digit. -/
def hexDigit? (b : UInt8) : Option Nat :=
  if b.toNat < 0x80 then Hex.digitValue? (.ofNat b.toNat) else none

/-- The value of four hexadecimal digits. -/
def hexQuad? (a b c d : UInt8) : Option Nat :=
  match hexDigit? a, hexDigit? b, hexDigit? c, hexDigit? d with
  | some a, some b, some c, some d => some (4096 * a + 256 * b + 16 * c + d)
  | _, _, _, _ => none

/-- The byte that the letter after a backslash stands for, except `u`. -/
def simpleEscape? (b : UInt8) : Option UInt8 :=
  match b with
  | 0x22 => some 0x22
  | 0x5C => some 0x5C
  | 0x2F => some 0x2F
  | 0x62 => some 0x08
  | 0x66 => some 0x0C
  | 0x6E => some 0x0A
  | 0x72 => some 0x0D
  | 0x74 => some 0x09
  | _ => none

/-- The value of a pair of surrogates. -/
def surrogatePair (high low : Nat) : Nat :=
  0x10000 + (high - 0xD800) * 0x400 + (low - 0xDC00)

/-- Resolve the escapes of a spelling. -/
def unescape? : List UInt8 → Option (List UInt8)
  | [] => some []
  | 0x5C :: 0x75 :: a :: b :: c :: d :: rest =>
    match hexQuad? a b c d with
    | none => none
    | some n =>
      if n < 0xD800 ∨ 0xDFFF < n then (unescape? rest).map (Utf8.encodeChar (.ofNat n) ++ ·)
      else if 0xDC00 ≤ n then none
      else match rest with
        | 0x5C :: 0x75 :: e :: f :: g :: h :: rest' =>
          match hexQuad? e f g h with
          | none => none
          | some m =>
            if 0xDC00 ≤ m ∧ m ≤ 0xDFFF then
              (unescape? rest').map (Utf8.encodeChar (.ofNat (surrogatePair n m)) ++ ·)
            else none
        | _ => none
  | 0x5C :: x :: rest =>
    match simpleEscape? x with
    | some v => (unescape? rest).map (v :: ·)
    | none => none
  | x :: rest => if x = 0x5C ∨ x = 0x22 ∨ x < 0x20 then none else (unescape? rest).map (x :: ·)

/-- The text that a spelling stands for. -/
def read? (spelling : List UInt8) : Option String :=
  (unescape? spelling).bind Utf8.decode?

end TorznabGateway.Json.Quoted
