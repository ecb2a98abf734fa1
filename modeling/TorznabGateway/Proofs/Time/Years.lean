import Mathlib.Algebra.Group.Nat.Defs
import TorznabGateway.Time.Rfc2822
import TorznabGateway.Time.Rfc3339

/-!
# Years and day numbers

Where the years of a calendar period end, in days and in seconds. A mail date has room for the
years 0 to 9999, which are 25 periods of 400 years, so whether a moment has such a date is a
question of two bounds on its seconds.

## Main statements

* `Date.year_ofDays_lt_iff`, `Date.toDays_lt_iff`: the days before a multiple of 400 years.
* `Rfc2822.isPrintable_iff`: the seconds that a mail date can show.
* `Rfc3339.seconds_of_parse?`: how far a date with an offset can be from these.
* `Rfc3339.isPrintable_of_parseLocal?`: a date without an offset is shown if its year is.
-/
namespace TorznabGateway.Time

namespace Date

/-- The year within a period of 400 years, by the day within the period. -/
theorem yearOfEra_spec {day : Int} (low : 0 ≤ day) (high : day < 146097) :
    let year := (day - day / 1460 + day / 36524 - day / 146096) / 365
    0 ≤ year ∧ year ≤ 399 ∧ (year = 399 ↔ 145731 ≤ day) := by
  intro year
  refine ⟨?_, ?_, ?_⟩ <;> omega

/-- A period starts in March, so its last 60 days are the first of the next 400 calendar years. -/
theorem year_ofDays_of_era {days era day : Int} (h : days + 719468 = 146097 * era + day)
    (low : 0 ≤ day) (high : day < 146097) :
    if day < 146037 then 400 * era ≤ (ofDays days).year ∧ (ofDays days).year < 400 * era + 400
    else (ofDays days).year = 400 * era + 400 := by
  have quotient : (days + 719468) / 146097 = era := by omega
  have rest : (days + 719468) % 146097 = day := by omega
  obtain ⟨first, last, final⟩ := yearOfEra_spec low high
  simp only [ofDays, quotient, rest]
  generalize (day - day / 1460 + day / 36524 - day / 146096) / 365 = year at *
  by_cases ends : year = 399
  · have late := final.1 ends
    subst ends
    split <;> split <;> omega
  · have early : day < 145731 := by omega
    rw [if_pos (by omega)]
    split <;> omega

/-- The days on which a year that is a multiple of 400 has not begun. -/
theorem year_ofDays_lt_iff (days k : Int) :
    (ofDays days).year < 400 * k ↔ days < 146097 * k - 719528 := by
  have eras : days + 719468 = 146097 * ((days + 719468) / 146097) + (days + 719468) % 146097 := by
    omega
  have spec := year_ofDays_of_era eras (by omega) (by omega)
  generalize (ofDays days).year = year at *
  split at spec <;> omega

/-- The days of a period before one of its years. -/
theorem daysBefore_spec (year : Int) (low : 0 ≤ year) (high : year ≤ 399) :
    let days := year * 365 + year / 4 - year / 100
    0 ≤ days ∧ days ≤ 145731 ∧ (year = 399 → days = 145731) ∧ (year ≠ 399 → days ≤ 145366) := by
  intro days
  refine ⟨?_, ?_, ?_, ?_⟩ <;> omega

/-- The days before a year that is a multiple of 400. -/
theorem toDays_lt_iff {d : Date} (valid : d.isValid) (k : Int) :
    d.toDays < 146097 * k - 719528 ↔ d.year < 400 * k := by
  have length : daysInMonth d.year d.month ≤ 31 := by
    unfold daysInMonth
    repeat' split
    all_goals omega
  simp only [isValid, Bool.and_eq_true, decide_eq_true_eq] at valid
  obtain ⟨⟨⟨month, months⟩, day⟩, days⟩ := valid
  simp only [toDays]
  split
  · next early =>
    -- January and February end the year that started in March before
    obtain ⟨low, high, final, others⟩ :=
      daysBefore_spec ((d.year - 1) % 400) (by omega) (by omega)
    generalize (d.year - 1) % 400 * 365 + (d.year - 1) % 400 / 4 - (d.year - 1) % 400 / 100
      = before at *
    have start : 306 ≤ (153 * (((d.month : Int) + 9) % 12) + 2) / 5 := by omega
    have stop : (153 * (((d.month : Int) + 9) % 12) + 2) / 5 ≤ 337 := by omega
    generalize (153 * (((d.month : Int) + 9) % 12) + 2) / 5 = months at *
    by_cases ends : (d.year - 1) % 400 = 399
    · have := final ends
      omega
    · have := others ends
      omega
  · next late =>
    obtain ⟨low, high, -, -⟩ := daysBefore_spec (d.year % 400) (by omega) (by omega)
    generalize d.year % 400 * 365 + d.year % 400 / 4 - d.year % 400 / 100 = before at *
    have start : 0 ≤ (153 * (((d.month : Int) + 9) % 12) + 2) / 5 := by omega
    have stop : (153 * (((d.month : Int) + 9) % 12) + 2) / 5 ≤ 275 := by omega
    generalize (153 * (((d.month : Int) + 9) % 12) + 2) / 5 = months at *
    omega

end Date

/-! ## Mail dates -/

namespace Rfc2822

/-- The first second of the year 0. -/
def firstSecond : Int := -62167219200

/-- The first second of the year 10000. -/
def endSecond : Int := 253402300800

theorem isPrintable_iff (m : Moment) :
    isPrintable m ↔ firstSecond ≤ m.seconds ∧ m.seconds < endSecond := by
  have first := Date.year_ofDays_lt_iff (m.seconds / 86400) 0
  have last := Date.year_ofDays_lt_iff (m.seconds / 86400) 25
  rw [isPrintable, Bool.and_eq_true, decide_eq_true_eq, decide_eq_true_eq]
  dsimp only [Moment.reading, firstSecond, endSecond]
  omega

theorem render?_isSome (m : Moment) : (render? m).isSome = isPrintable m := by
  rw [render?]
  split <;> simp [*]

end Rfc2822

/-! ## Dates that are read -/

/-- A clock that is ahead of UTC shows a day, and a time of that day. -/
theorem Moment.seconds_of_ofReading? {date : Date} {hour minute second nanos : Nat} {offset : Int}
    {m : Moment} (h : ofReading? date hour minute second nanos offset = some m) :
    date.isValid ∧ ∃ inDay : Int, 0 ≤ inDay ∧ inDay < 86400
      ∧ m.seconds = date.toDays * 86400 + inDay - offset := by
  unfold ofReading? at h
  split at h
  · next shown =>
    obtain ⟨valid, -, -, hours, minutes, -⟩ := shown
    dsimp only at h
    split at h
    · obtain rfl := Option.some.inj h
      exact ⟨valid, (hour * 3600 + minute * 60 + min second 59 : Nat), by omega, by omega, by simp⟩
    · cases h
  · cases h

/-- Without an offset, a moment is in the year of its date, as far as mail dates can tell. -/
theorem Rfc2822.isPrintable_of_ofReading? {date : Date} {hour minute second nanos : Nat}
    {m : Moment} (h : Moment.ofReading? date hour minute second nanos 0 = some m) :
    isPrintable m ↔ 0 ≤ date.year ∧ date.year ≤ 9999 := by
  obtain ⟨valid, inDay, low, high, seconds⟩ := Moment.seconds_of_ofReading? h
  have first := Date.toDays_lt_iff valid 0
  have last := Date.toDays_lt_iff valid 25
  simp only [isPrintable_iff, firstSecond, endSecond]
  omega

namespace Rfc3339

open Text

theorem digitValue?_le {c : Char} {d : Nat} (h : Decimal.digitValue? c = some d) : d ≤ 9 := by
  unfold Decimal.digitValue? at h
  split at h
  · next digit =>
    have upper : c.toNat ≤ 57 := digit.2
    have := Option.some.inj h
    simp only [Char.reduceToNat] at this
    omega
  · cases h

/-- Digits that are taken have a value below the power of ten that has one digit more. -/
theorem takeDigits_lt (limit acc : Nat) (cs : List Char) :
    (takeDigits limit acc cs).1 < (acc + 1) * 10 ^ limit := by
  have stop (limit acc : Nat) : acc < (acc + 1) * 10 ^ limit :=
    Nat.lt_of_lt_of_le (Nat.lt_succ_self acc)
      (Nat.le_mul_of_pos_right _ (Nat.pow_pos (by decide)))
  fun_induction takeDigits limit acc cs with
  | case1 limit acc => exact stop limit acc
  | case2 acc c cs limit d digit value count rest taken ih =>
    have small := digitValue?_le digit
    rw [taken] at ih
    calc value
        < (10 * acc + d + 1) * 10 ^ limit := ih
      _ ≤ 10 * (acc + 1) * 10 ^ limit := Nat.mul_le_mul_right _ (by omega)
      _ = (acc + 1) * 10 ^ (limit + 1) := by rw [Nat.pow_succ]; ac_rfl
  | case3 limit acc c cs done => exact stop limit acc

theorem lt_of_number? {least most n : Nat} {cs rest : List Char}
    (h : number? least most cs = some (n, rest)) : n < 10 ^ most := by
  have below := takeDigits_lt most 0 cs
  unfold number? at h
  dsimp only at h
  split at h
  · obtain ⟨rfl, -⟩ := Prod.mk.inj (Option.some.inj h)
    simpa using below
  · cases h

/-- A date with an offset is less than a day away from those that a mail date can show: its year
has four digits, and its offset is less than a day. -/
theorem seconds_of_parse? {s : String} {m : Moment} (h : parse? s = some m) :
    Rfc2822.firstSecond - 86400 < m.seconds ∧ m.seconds < Rfc2822.endSecond + 86400 := by
  rw [parse?] at h
  obtain ⟨⟨year, _⟩, spelled, h⟩ := Option.bind_eq_some_iff.1 h
  -- month, day, hour, minute and second, each behind its mark
  iterate 5
    obtain ⟨_, -, h⟩ := Option.bind_eq_some_iff.1 h
    obtain ⟨⟨_, _⟩, -, h⟩ := Option.bind_eq_some_iff.1 h
  obtain ⟨⟨nanos, _⟩, -, h⟩ := Option.bind_eq_some_iff.1 h
  obtain ⟨⟨offset, _⟩, -, h⟩ := Option.bind_eq_some_iff.1 h
  dsimp only at h
  have years := lt_of_number? spelled
  split at h
  · next fits =>
    obtain ⟨valid, inDay, low, high, seconds⟩ := Moment.seconds_of_ofReading? h
    have first := Date.toDays_lt_iff valid 0
    have last := Date.toDays_lt_iff valid 25
    have offsets := fits.2
    dsimp only [Rfc2822.firstSecond, Rfc2822.endSecond] at *
    omega
  · cases h

/-- A date without an offset has a mail date if and only if the year that it spells has. -/
theorem isPrintable_of_parseLocal? {s : String} {m : Moment} (h : parseLocal? s = some m) :
    ∃ year rest, looseYear? s.toList = some (year, rest)
      ∧ (Rfc2822.isPrintable m ↔ 0 ≤ year ∧ year ≤ 9999) := by
  rw [parseLocal?] at h
  obtain ⟨⟨year, rest⟩, spelled, h⟩ := Option.bind_eq_some_iff.1 h
  iterate 5
    obtain ⟨_, -, h⟩ := Option.bind_eq_some_iff.1 h
    obtain ⟨⟨_, _⟩, -, h⟩ := Option.bind_eq_some_iff.1 h
  dsimp only at h
  refine ⟨year, rest, spelled, ?_⟩
  split at h
  · exact Rfc2822.isPrintable_of_ofReading? h
  · cases h

end Rfc3339

end TorznabGateway.Time
