import TorznabGateway.Text.WhiteSpace
import TorznabGateway.Time.Moment

/-!
# Dates and times of RFC 3339

`render` writes a moment in UTC with as many fractional digits as it needs out of none, three, six
and nine. There are three readers. `parse?` is the strict form. `parseRelaxed?` also takes blanks
around the parts, fewer digits, years with a sign and more than four digits, and a missing colon in
the offset. `parseLocal?` takes a date and time without an offset, as UTC.
-/
namespace TorznabGateway.Time.Rfc3339

open Text

/-! ## Writing -/

/-- A year: four digits, with a sign outside of 0 to 9999. -/
def yearChars (year : Int) : List Char :=
  if 0 ≤ year ∧ year ≤ 9999 then Decimal.padded 4 year.toNat
  else (if year < 0 then '-' else '+') :: Decimal.padded 4 year.natAbs

/-- The fraction of a second, in the fewest groups of three digits that hold it. -/
def fractionChars (nanos : Nat) : List Char :=
  if nanos = 0 then []
  else if nanos % 1000000 = 0 then '.' :: Decimal.padded 3 (nanos / 1000000)
  else if nanos % 1000 = 0 then '.' :: Decimal.padded 6 (nanos / 1000)
  else '.' :: Decimal.padded 9 nanos

/-- A moment, with `zone` as the written form of UTC. -/
def renderChars (zone : List Char) (m : Moment) : List Char :=
  let r := m.reading
  yearChars r.date.year ++ '-' :: Decimal.padded 2 r.date.month
    ++ '-' :: Decimal.padded 2 r.date.day
    ++ 'T' :: Decimal.padded 2 r.hour ++ ':' :: Decimal.padded 2 r.minute
    ++ ':' :: Decimal.padded 2 r.second ++ fractionChars r.nanos ++ zone

/-- A moment with `Z` for UTC. -/
def render (m : Moment) : String :=
  .ofList (renderChars ['Z'] m)

/-- A moment with a numeric offset. -/
def renderOffset (m : Moment) : String :=
  .ofList (renderChars ['+', '0', '0', ':', '0', '0'] m)

/-! ## Reading -/

/-- Digits in front, at most `limit` of them, with the value they spell after `acc`, their number
and the rest. -/
def takeDigits (limit acc : Nat) : List Char → Nat × Nat × List Char
  | [] => (acc, 0, [])
  | c :: cs =>
    match limit, Decimal.digitValue? c with
    | limit + 1, some d =>
      let (value, count, rest) := takeDigits limit (10 * acc + d) cs
      (value, count + 1, rest)
    | _, _ => (acc, 0, c :: cs)

/-- A number of `least` to `most` digits. -/
def number? (least most : Nat) (cs : List Char) : Option (Nat × List Char) :=
  let (value, count, rest) := takeDigits most 0 cs
  if least ≤ count then some (value, rest) else none

/-- A character that must stand in front. -/
def expect? (c : Char) : List Char → Option (List Char)
  | x :: rest => if x = c then some rest else none
  | [] => none

/-- `T`, `t` or a blank. -/
def expectSeparator? : List Char → Option (List Char)
  | x :: rest => if x = 'T' ∨ x = 't' ∨ x = ' ' then some rest else none
  | [] => none

/-- An optional fraction of a second in nanoseconds; digits after the ninth do not count. -/
def fraction? : List Char → Option (Nat × List Char)
  | '.' :: cs =>
    let (value, count, rest) := takeDigits 9 0 cs
    if count = 0 then none
    else
      some (value * Nat.pow 10 (9 - count),
        rest.dropWhile fun c => (Decimal.digitValue? c).isSome)
  | cs => some (0, cs)

/-- A zone in seconds ahead of UTC: `Z`, or a sign, two digits of hours, what `separator?` takes,
and two digits of minutes below 60. U+2212 is a minus sign too. -/
def zone? (separator? : List Char → Option (List Char)) : List Char → Option (Int × List Char)
  | [] => none
  | c :: cs =>
    if c = 'Z' ∨ c = 'z' then some (0, cs)
    else if c = '+' ∨ c = '-' ∨ c = '\u2212' then do
      let (hours, rest) ← number? 2 2 cs
      let rest ← separator? rest
      let (minutes, rest) ← number? 2 2 rest
      let seconds : Int := hours * 3600 + minutes * 60
      if minutes ≤ 59 then some (if c = '+' then seconds else -seconds, rest) else none
    else none

/-- The strict form, with nothing around it. An offset stays below 24 hours. -/
def parse? (s : String) : Option Moment := do
  let (year, cs) ← number? 4 4 s.toList
  let cs ← expect? '-' cs
  let (month, cs) ← number? 2 2 cs
  let cs ← expect? '-' cs
  let (day, cs) ← number? 2 2 cs
  let cs ← expectSeparator? cs
  let (hour, cs) ← number? 2 2 cs
  let cs ← expect? ':' cs
  let (minute, cs) ← number? 2 2 cs
  let cs ← expect? ':' cs
  let (second, cs) ← number? 2 2 cs
  let (nanos, cs) ← fraction? cs
  let (offset, cs) ← zone? (expect? ':') cs
  if cs.isEmpty ∧ offset.natAbs < 86400 then
    Moment.ofReading? ⟨year, month, day⟩ hour minute second nanos offset
  else none

/-- A number of one or two digits, with blanks in front. -/
def looseNumber? (cs : List Char) : Option (Nat × List Char) :=
  number? 1 2 (trimStart cs)

/-- A year with blanks in front: one to four digits, or a sign and any number of them. -/
def looseYear? (cs : List Char) : Option (Int × List Char) :=
  match trimStart cs with
  | '-' :: rest => (number? 1 rest.length rest).map fun (n, rest) => (-n, rest)
  | '+' :: rest => (number? 1 rest.length rest).map fun (n, rest) => (n, rest)
  | cs => (number? 1 4 cs).map fun (n, rest) => (n, rest)

/-- Drop colons and blanks. -/
def skipColons (cs : List Char) : Option (List Char) :=
  some (cs.dropWhile fun c => c = ':' ∨ isWhiteSpace c)

/-- `UTC` in any case, or a zone whose separator may be left out. -/
def looseZone? (cs : List Char) : Option (Int × List Char) :=
  match cs with
  | a :: b :: c :: rest =>
    if a.toLower = 'u' ∧ b.toLower = 't' ∧ c.toLower = 'c' then some (0, rest)
    else zone? skipColons cs
  | _ => zone? skipColons cs

/-- The relaxed form; blanks may follow it. -/
def parseRelaxed? (s : String) : Option Moment := do
  let (year, cs) ← looseYear? s.toList
  let cs ← expect? '-' (trimStart cs)
  let (month, cs) ← looseNumber? cs
  let cs ← expect? '-' (trimStart cs)
  let (day, cs) ← looseNumber? cs
  let cs ← expectSeparator? cs
  let (hour, cs) ← looseNumber? cs
  let cs ← expect? ':' (trimStart cs)
  let (minute, cs) ← looseNumber? cs
  let cs ← expect? ':' (trimStart cs)
  let (second, cs) ← looseNumber? cs
  let (nanos, cs) ← fraction? cs
  let (offset, cs) ← looseZone? (trimStart cs)
  if (trimStart cs).isEmpty ∧ offset.natAbs < 86400 then
    Moment.ofReading? ⟨year, month, day⟩ hour minute second nanos offset
  else none

/-- A date and time joined by `T`, whole seconds and no zone, taken as UTC. -/
def parseLocal? (s : String) : Option Moment := do
  let (year, cs) ← looseYear? s.toList
  let cs ← expect? '-' cs
  let (month, cs) ← looseNumber? cs
  let cs ← expect? '-' cs
  let (day, cs) ← looseNumber? cs
  let cs ← expect? 'T' cs
  let (hour, cs) ← looseNumber? cs
  let cs ← expect? ':' cs
  let (minute, cs) ← looseNumber? cs
  let cs ← expect? ':' cs
  let (second, cs) ← looseNumber? cs
  if cs.isEmpty then Moment.ofReading? ⟨year, month, day⟩ hour minute second 0 0 else none

end TorznabGateway.Time.Rfc3339
