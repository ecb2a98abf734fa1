import TorznabGateway.Json.Basic
import TorznabGateway.Text.Decimal
import TorznabGateway.Text.Hex
import TorznabGateway.Text.Scan
import TorznabGateway.Time.Calendar

/-!
# Numbers and dates in TOML

Integers of 64 bits in four bases, floating-point numbers, and dates and times. Digits may be
separated by single underscores. A floating-point number too large to be finite is refused. A date
is an object with one member, its text, since no setting is a date.
-/
namespace TorznabGateway.Toml

open Text Time

def isDigit (c : Char) : Bool :=
  '0' ≤ c && c ≤ '9'

/-! ## Digits -/

/-- Digits of a base, with single underscores between them, which are dropped. -/
def readDigitGroups (p : Char → Bool) : Scan (List Char)
  | [] => none
  | [c] => if p c then some ([c], []) else none
  | c :: d :: rest =>
    if !p c then none
    else if d == '_' then (readDigitGroups p rest).map fun (ds, rest) => (c :: ds, rest)
    else if p d then (readDigitGroups p (d :: rest)).map fun (ds, rest) => (c :: ds, rest)
    else some ([c], d :: rest)

/-- Whether a sign in front is a minus, and what follows the sign. -/
def splitSign : List Char → Bool × List Char
  | '+' :: rest => (false, rest)
  | '-' :: rest => (true, rest)
  | cs => (false, cs)

/-- The digits of a decimal integer: a lone zero, or digits that start with another. -/
def readDecimalDigits : Scan (List Char)
  | '0' :: rest => some (['0'], rest)
  | cs => readDigitGroups isDigit cs

/-- The value of decimal digits. -/
def decimalValue (ds : List Char) : Nat :=
  (Decimal.readDigits? 0 ds).getD 0

/-! ## Integers -/

/-- A literal with a sign; there is no minus zero. -/
def signed (negative : Bool) (n : Nat) : Json :=
  .number (.integer (negative && n != 0) n)

/-- The largest magnitude of an integer with a sign. -/
def maxMagnitude (negative : Bool) : Nat :=
  if negative then 0x8000000000000000 else 0x7FFFFFFFFFFFFFFF

/-- An integer in another base, behind the letter that names it. -/
def readBased (base : Nat) (p : Char → Bool) : Scan Json := fun cs => do
  let (ds, rest) ← readDigitGroups p cs
  let n := ds.foldl (fun acc d => base * acc + (Hex.digitValue? d).getD 0) 0
  if n ≤ maxMagnitude false then some (signed false n, rest) else none

/-- An integer. -/
def readInteger : Scan Json
  | '0' :: 'x' :: rest => readBased 16 (fun c => (Hex.digitValue? c).isSome) rest
  | '0' :: 'o' :: rest => readBased 8 (fun c => '0' ≤ c && c ≤ '7') rest
  | '0' :: 'b' :: rest => readBased 2 (fun c => c == '0' || c == '1') rest
  | cs => do
    let (negative, unsigned) := splitSign cs
    let (ds, rest) ← readDecimalDigits unsigned
    let n := decimalValue ds
    if n ≤ maxMagnitude negative then some (signed negative n, rest) else none

/-! ## Floating-point numbers -/

/-- The least number that is rounded to infinity with 64 bits: half a unit above the largest. -/
def infinityBound : Nat :=
  Nat.pow 2 1024 - Nat.pow 2 970

/-- Whether `m · 10 ^ e` is rounded to infinity. -/
def overflows (m : Nat) (e : Int) : Bool :=
  let magnitude : Int := (Decimal.digits m).length + e
  if m = 0 ∨ magnitude ≤ 308 then false
  else if 310 ≤ magnitude then true
  else infinityBound * Nat.pow 10 (-e).toNat ≤ m * Nat.pow 10 e.toNat

/-- The digits behind a decimal point. -/
def readFraction : Scan (List Char)
  | '.' :: rest => readDigitGroups isDigit rest
  | _ => none

/-- An exponent. -/
def readExponent : Scan Int
  | c :: rest =>
    if c == 'e' || c == 'E' then
      let (negative, unsigned) := splitSign rest
      (readDigitGroups isDigit unsigned).map fun (ds, rest) =>
        (if negative then -(decimalValue ds : Int) else decimalValue ds, rest)
    else none
  | [] => none

/-- The literal of a text behind which `rest` follows. -/
def spelled (cs rest : List Char) : Json :=
  .number (.decimal (cs.take (cs.length - rest.length)))

/-- A number with a fraction, an exponent or both. -/
def readFinite : Scan Json := fun cs => do
  let (negative, unsigned) := splitSign cs
  let (whole, afterWhole) ← readDecimalDigits unsigned
  let (fraction, afterFraction) := Scan.optional readFraction afterWhole
  let (exponent, rest) := Scan.optional readExponent afterFraction
  if fraction.isNone && exponent.isNone then none
  else
    let places := fraction.getD []
    if !negative && overflows (decimalValue (whole ++ places)) (exponent.getD 0 - places.length)
    then none
    else some (spelled cs rest, rest)

/-- Infinity, or what is no number, with or without a sign. -/
def readSpecial : Scan Json := fun cs =>
  match (splitSign cs).2 with
  | 'i' :: 'n' :: 'f' :: rest => some (spelled cs rest, rest)
  | 'n' :: 'a' :: 'n' :: rest => some (spelled cs rest, rest)
  | _ => none

/-! ## Dates and times -/

/-- A number of so many digits within bounds. -/
def readField (width low high : Nat) : Scan Nat := fun cs => do
  let (ds, rest) ← Scan.exactly width isDigit cs
  let n := decimalValue ds
  if low ≤ n ∧ n ≤ high then some (n, rest) else none

/-- A date; only the text behind it is of interest. -/
def skipDate (cs : List Char) : Option (List Char) := do
  let (year, rest) ← readField 4 0 9999 cs
  let (_, rest) ← Scan.char '-' rest
  let (month, rest) ← readField 2 1 12 rest
  let (_, rest) ← Scan.char '-' rest
  let (day, rest) ← readField 2 1 31 rest
  if (Date.mk year month day).isValid then some rest else none

/-- Hours and minutes. -/
def skipClock (cs : List Char) : Option (List Char) := do
  let (_, rest) ← readField 2 0 23 cs
  let (_, rest) ← Scan.char ':' rest
  let (_, rest) ← readField 2 0 59 rest
  return rest

/-- A fraction of a second, if there is one. -/
def skipSecondFraction : List Char → List Char
  | '.' :: c :: rest => if isDigit c then rest.dropWhile isDigit else '.' :: c :: rest
  | cs => cs

/-- A time with seconds. -/
def skipTime (cs : List Char) : Option (List Char) := do
  let rest ← skipClock cs
  let (_, rest) ← Scan.char ':' rest
  let (_, rest) ← readField 2 0 60 rest
  return skipSecondFraction rest

/-- An offset, if there is one. -/
def skipOffset (cs : List Char) : List Char :=
  match cs with
  | [] => []
  | c :: rest =>
    if c == 'Z' || c == 'z' then rest
    else if c == '+' || c == '-' then (skipClock rest).getD cs
    else cs

/-- A time behind a date, if there is one. -/
def skipDateTime (cs : List Char) : List Char :=
  match cs with
  | [] => []
  | c :: rest =>
    if c == 'T' || c == 't' || c == ' ' then ((skipTime rest).map skipOffset).getD cs else cs

/-- The name of the member that holds a date. -/
def dateMember : String := "$date"

/-- A date, a time, or both. -/
def readMoment : Scan Json := fun cs => do
  let rest ← match skipDate cs with
    | some rest => some (skipDateTime rest)
    | none => skipTime cs
  return (.object [(dateMember, .text (.ofList (cs.take (cs.length - rest.length))))], rest)

/-! ## Any of them -/

/-- A number or a date. -/
def readNumber : Scan Json := fun cs =>
  match readMoment cs with
  | some found => some found
  | none =>
    match readFinite cs with
    | some found => some found
    | none =>
      match readSpecial cs with
      | some found => some found
      | none => readInteger cs

end TorznabGateway.Toml
