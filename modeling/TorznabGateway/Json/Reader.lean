import TorznabGateway.Json.Basic
import TorznabGateway.Json.Quoted

/-!
# Reading JSON

`readSpelled?` checks the syntax of a whole document and keeps string literals as they are spelled;
`parse?` reads the literals too. Nesting may have any depth. Only blanks may stand around the
value.
-/
namespace TorznabGateway.Json

/-- Blank, tab, line feed and carriage return. -/
def isBlank (b : UInt8) : Bool :=
  b == 0x20 || b == 0x09 || b == 0x0A || b == 0x0D

/-- Drop the blanks in front. -/
def skipBlanks (bs : List UInt8) : List UInt8 :=
  bs.dropWhile isBlank

/-- An ASCII decimal digit. -/
def isDigit (b : UInt8) : Bool :=
  0x30 ≤ b && b ≤ 0x39

/-- The characters of ASCII bytes. -/
def asciiChars (bs : List UInt8) : List Char :=
  bs.map fun b => .ofNat b.toNat

/-- The value of a run of digits. -/
def digitsValue (bs : List UInt8) : Nat :=
  bs.foldl (fun acc b => 10 * acc + (b.toNat - 0x30)) 0

/-- The spelling of a string literal after its opening quote, and what follows the closing one. -/
def readLiteral : List UInt8 → Option (List UInt8 × List UInt8)
  | [] => none
  | 0x22 :: rest => some ([], rest)
  | 0x5C :: 0x75 :: a :: b :: c :: d :: rest =>
    match Quoted.hexQuad? a b c d, readLiteral rest with
    | some _, some (s, rest') => some (0x5C :: 0x75 :: a :: b :: c :: d :: s, rest')
    | _, _ => none
  | 0x5C :: x :: rest =>
    match Quoted.simpleEscape? x, readLiteral rest with
    | some _, some (s, rest') => some (0x5C :: x :: s, rest')
    | _, _ => none
  | x :: rest =>
    if x = 0x5C ∨ x < 0x20 then none
    else match readLiteral rest with
      | some (s, rest') => some (x :: s, rest')
      | none => none

/-- The digits in front and the rest; there must be one. -/
def readDigits (bs : List UInt8) : Option (List UInt8 × List UInt8) :=
  match bs.takeWhile isDigit with
  | [] => none
  | ds => some (ds, bs.dropWhile isDigit)

/-- The digits before the fraction: a zero alone, or digits that do not start with one. -/
def readWhole : List UInt8 → Option (List UInt8 × List UInt8)
  | 0x30 :: rest =>
    match rest with
    | b :: _ => if isDigit b then none else some ([0x30], rest)
    | [] => some ([0x30], rest)
  | bs => readDigits bs

/-- The point and the digits of a fraction, if there is one. -/
def readFraction : List UInt8 → Option (List UInt8 × List UInt8)
  | 0x2E :: rest => (readDigits rest).map fun (ds, rest') => (0x2E :: ds, rest')
  | bs => some ([], bs)

/-- The letter, sign and digits of an exponent, if there is one. -/
def readExponent : List UInt8 → Option (List UInt8 × List UInt8)
  | e :: rest =>
    if e == 0x65 || e == 0x45 then
      match rest with
      | s :: rest' =>
        if s == 0x2B || s == 0x2D then
          (readDigits rest').map fun (ds, rest'') => (e :: s :: ds, rest'')
        else (readDigits rest).map fun (ds, rest'') => (e :: ds, rest'')
      | [] => none
    else some ([], e :: rest)
  | [] => some ([], [])

/-- A number literal without its sign. -/
def readUnsigned (negative : Bool) (bs : List UInt8) : Option (Number × List UInt8) :=
  match readWhole bs with
  | none => none
  | some (whole, rest) =>
    match readFraction rest with
    | none => none
    | some (fraction, rest') =>
      match readExponent rest' with
      | none => none
      | some (exponent, rest'') =>
        if fraction.isEmpty && exponent.isEmpty then
          some (.integer negative (digitsValue whole), rest'')
        else
          let spelling := asciiChars (whole ++ fraction ++ exponent)
          some (.decimal (if negative then '-' :: spelling else spelling), rest'')

/-- A number literal. -/
def readNumber : List UInt8 → Option (Number × List UInt8)
  | 0x2D :: rest => readUnsigned true rest
  | bs => readUnsigned false bs

mutual

/-- A value and what follows it. Every value and every element takes a byte at least, so the number
of bytes is fuel enough. -/
def readValue (fuel : Nat) (bs : List UInt8) : Option (Spelled × List UInt8) :=
  match fuel with
  | 0 => none
  | fuel + 1 =>
    match skipBlanks bs with
    | 0x22 :: rest => (readLiteral rest).map fun (s, rest') => (.text s, rest')
    | 0x5B :: rest =>
      match skipBlanks rest with
      | 0x5D :: rest' => some (.array [], rest')
      | rest' => (readElements fuel rest').map fun (vs, rest'') => (.array vs, rest'')
    | 0x7B :: rest =>
      match skipBlanks rest with
      | 0x7D :: rest' => some (.object [], rest')
      | rest' => (readMembers fuel rest').map fun (ms, rest'') => (.object ms, rest'')
    | 0x74 :: 0x72 :: 0x75 :: 0x65 :: rest => some (.boolean true, rest)
    | 0x66 :: 0x61 :: 0x6C :: 0x73 :: 0x65 :: rest => some (.boolean false, rest)
    | 0x6E :: 0x75 :: 0x6C :: 0x6C :: rest => some (.null, rest)
    | bs' => (readNumber bs').map fun (n, rest) => (.number n, rest)

/-- The elements of a non-empty array and what follows its closing bracket. -/
def readElements (fuel : Nat) (bs : List UInt8) : Option (List Spelled × List UInt8) :=
  match fuel with
  | 0 => none
  | fuel + 1 =>
    match readValue fuel bs with
    | none => none
    | some (v, rest) =>
      match skipBlanks rest with
      | 0x2C :: rest' => (readElements fuel rest').map fun (vs, rest'') => (v :: vs, rest'')
      | 0x5D :: rest' => some ([v], rest')
      | _ => none

/-- The members of a non-empty object and what follows its closing brace. -/
def readMembers (fuel : Nat) (bs : List UInt8) :
    Option (List (List UInt8 × Spelled) × List UInt8) :=
  match fuel with
  | 0 => none
  | fuel + 1 =>
    match skipBlanks bs with
    | 0x22 :: rest =>
      match readLiteral rest with
      | none => none
      | some (name, rest) =>
        match skipBlanks rest with
        | 0x3A :: rest =>
          match readValue fuel rest with
          | none => none
          | some (v, rest) =>
            match skipBlanks rest with
            | 0x2C :: rest' =>
              (readMembers fuel rest').map fun (ms, rest'') => ((name, v) :: ms, rest'')
            | 0x7D :: rest' => some ([(name, v)], rest')
            | _ => none
        | _ => none
    | _ => none

end

/-- The value that a document spells. -/
def readSpelled? (bs : List UInt8) : Option Spelled :=
  match readValue (2 * bs.length + 1) bs with
  | some (v, rest) => if (skipBlanks rest).isEmpty then some v else none
  | none => none

/-- The value of a document, with all its texts read. -/
def parse? (bs : List UInt8) : Option Json :=
  (readSpelled? bs).bind (mapText? Quoted.read?)

end TorznabGateway.Json
