import TorznabGateway.Text.Decimal
import TorznabGateway.Time.Calendar

/-!
# Moments

A moment in UTC, to the nanosecond. A leap second is the second before it with a billion
nanoseconds more, so that it needs no day of its own length.
-/
namespace TorznabGateway.Time

/-- Seconds since the start of 1970 in UTC, and nanoseconds. -/
structure Moment where
  seconds : Int
  nanos : Nat
  deriving DecidableEq, Repr, Inhabited

/-- The parts of a moment as a clock shows them. A leap second shows as second 60. -/
structure ClockReading where
  date : Date
  weekday : Nat
  hour : Nat
  minute : Nat
  second : Nat
  nanos : Nat
  deriving DecidableEq, Repr

namespace Moment

/-- What a clock in UTC shows. -/
def reading (m : Moment) : ClockReading :=
  let days := m.seconds / 86400
  let inDay := (m.seconds % 86400).toNat
  let isLeap := 1000000000 ≤ m.nanos
  { date := .ofDays days
    weekday := Date.weekday days
    hour := inDay / 3600
    minute := inDay / 60 % 60
    second := inDay % 60 + (if isLeap then 1 else 0)
    nanos := if isLeap then m.nanos - 1000000000 else m.nanos }

/-- The moment of a clock that shows a date and time and is `offset` seconds ahead of UTC, if there
is such a reading and the date in UTC is one that is kept. -/
def ofReading? (date : Date) (hour minute second nanos : Nat) (offset : Int) : Option Moment :=
  if date.isValid ∧ Date.minYear ≤ date.year ∧ date.year ≤ Date.maxYear
      ∧ hour ≤ 23 ∧ minute ≤ 59 ∧ second ≤ 60 then
    let leap := if second = 60 then 1000000000 else 0
    let inDay := hour * 3600 + minute * 60 + min second 59
    let seconds := date.toDays * 86400 + inDay - offset
    let year := (Date.ofDays (seconds / 86400)).year
    if Date.minYear ≤ year ∧ year ≤ Date.maxYear then some ⟨seconds, nanos + leap⟩ else none
  else none

/-- The time of day in seconds. -/
def secondOfDay (m : Moment) : Int :=
  m.seconds % 86400

/-- The time from `earlier` to `later` in nanoseconds. A leap second that the moment with the lesser
time of day is in lies between the two, and is counted. -/
def nanosSince (later earlier : Moment) : Int :=
  let leap : Int :=
    if earlier.secondOfDay < later.secondOfDay ∧ 1000000000 ≤ earlier.nanos then 1
    else if later.secondOfDay < earlier.secondOfDay ∧ 1000000000 ≤ later.nanos then -1
    else 0
  (later.seconds - earlier.seconds + leap) * 1000000000 + ((later.nanos : Int) - earlier.nanos)

/-- The moment some milliseconds later. -/
def addMillis (m : Moment) (ms : Nat) : Moment :=
  let nanos := m.nanos + ms % 1000 * 1000000
  { seconds := m.seconds + (ms / 1000 : Nat) + (nanos / 1000000000 : Nat)
    nanos := nanos % 1000000000 }

end Moment

end TorznabGateway.Time
