import TorznabGateway.Text.Hex

/-!
# Backslash escapes

Escapes in quoted texts: a letter for a control character, a quote, a backslash, or `u` and `U` with
four or eight hexadecimal digits of a code point. Anything else behind a backslash is an error.
-/
namespace TorznabGateway.Text.Escape

/-- The character that a single letter behind a backslash stands for. -/
def letter? : Char → Option Char
  | 'b' => some '\x08'
  | 't' => some '\t'
  | 'n' => some '\n'
  | 'f' => some '\x0c'
  | 'r' => some '\r'
  | '"' => some '"'
  | '\\' => some '\\'
  | _ => none

/-- The character with a code point in hexadecimal digits; surrogates are no characters. -/
def codePoint? (ds : List Char) : Option Char :=
  (Hex.readDigits? 0 ds).bind fun n => if n.isValidChar then some (.ofNat n) else none

/-- Characters that stand for themselves on one line: no control character but the tab. -/
def isPlain (c : Char) : Bool :=
  c == '\t' || (0x20 ≤ c.toNat && c.toNat != 0x7F)

/-- Resolve the escapes of a text whose other characters satisfy `plain`. -/
def resolve? (plain : Char → Bool) : List Char → Option (List Char)
  | [] => some []
  | '\\' :: 'u' :: a :: b :: c :: d :: rest =>
    (codePoint? [a, b, c, d]).bind fun x => (resolve? plain rest).map (x :: ·)
  | '\\' :: 'U' :: a :: b :: c :: d :: e :: f :: g :: h :: rest =>
    (codePoint? [a, b, c, d, e, f, g, h]).bind fun x => (resolve? plain rest).map (x :: ·)
  | '\\' :: c :: rest =>
    (letter? c).bind fun x => (resolve? plain rest).map (x :: ·)
  | c :: rest => if plain c then (resolve? plain rest).map (c :: ·) else none

end TorznabGateway.Text.Escape
