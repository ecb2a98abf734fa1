import Mathlib.Data.List.DropRight
import Mathlib.Data.Nat.Digits.Defs
import TorznabGateway.Text.Decimal
import TorznabGateway.Text.Split

/-!
# Lists and numbers as callers write them

Which texts are comma lists of what, and which are numerals of which number. Lists and numerals that
the library writes are among them, and have no white space to be cut off.

## Main definitions

* `Text.commaItems`: the pieces between commas without white space around them, blank ones left out.
* `Text.Decimal.Denotes`: an optional plus sign and at least one decimal digit, with their value.

## Main statements

* `Text.trim_trim`: a trimmed text is not trimmed any further.
* `Text.commaParts_eq_commaItems`: the parts that are read are these pieces.
* `Text.Decimal.readUpTo?_eq_some_iff`: the numbers that are read are those denoted and not too
  large.
-/
namespace TorznabGateway.Text

/-! ## White space -/

theorem trimChars_eq_rdropWhile (s : List Char) :
    trimChars s = (s.dropWhile isWhiteSpace).rdropWhile isWhiteSpace := rfl

/-- A text without white space is left as it is. -/
theorem trimChars_of_forall {s : List Char} (h : ∀ c ∈ s, isWhiteSpace c = false) :
    trimChars s = s := by
  have start : s.dropWhile isWhiteSpace = s := by
    cases s with
    | nil => rfl
    | cons c cs => exact List.dropWhile_cons_of_neg (by simp [h c List.mem_cons_self])
  rw [trimChars_eq_rdropWhile, start, List.rdropWhile_eq_self_iff]
  intro ne
  simp [h _ (List.getLast_mem ne)]

/-- A text is left as it is if it has no white space at its ends. -/
theorem trimChars_eq_self_iff {s : List Char} :
    trimChars s = s ↔ s.dropWhile isWhiteSpace = s ∧ s.rdropWhile isWhiteSpace = s := by
  rw [trimChars_eq_rdropWhile]
  constructor
  · intro kept
    have front : (s.dropWhile isWhiteSpace).rdropWhile isWhiteSpace <+: s.dropWhile isWhiteSpace :=
      List.rdropWhile_prefix _ _
    have start : s.dropWhile isWhiteSpace = s :=
      (List.dropWhile_suffix _).eq_of_length_le (by simpa only [kept] using front.length_le)
    exact ⟨start, by rwa [start] at kept⟩
  · rintro ⟨start, finish⟩
    rw [start, finish]

theorem trimChars_trimChars (s : List Char) : trimChars (trimChars s) = trimChars s := by
  -- What is cut off at the end leaves the first character, which is no white space.
  have start : (trimChars s).dropWhile isWhiteSpace = trimChars s := by
    rw [List.dropWhile_eq_self_iff]
    intro some_char
    have front : trimChars s <+: s.dropWhile isWhiteSpace := List.rdropWhile_prefix _ _
    have first := List.dropWhile_get_zero_not isWhiteSpace s
      (some_char.trans_le front.length_le)
    have same := front.getElem some_char
    simp_all
  rw [trimChars_eq_rdropWhile (trimChars s), start, trimChars_eq_rdropWhile,
    List.rdropWhile_idempotent]

theorem trim_trim (s : String) : trim (trim s) = trim s := by
  rw [trim, trim, String.toList_ofList, trimChars_trimChars]

theorem mem_of_mem_trim {s : String} {c : Char} (h : c ∈ (trim s).toList) : c ∈ s.toList := by
  rw [trim, String.toList_ofList, trimChars_eq_rdropWhile] at h
  exact (List.dropWhile_suffix _).mem ((List.rdropWhile_prefix _ _).mem h)

theorem isWhiteSpace_of_isDigit {c : Char} (h : c.isDigit) : isWhiteSpace c = false := by
  simp only [Char.isDigit, Bool.and_eq_true, decide_eq_true_eq, ge_iff_le,
    UInt32.le_iff_toNat_le] at h
  have low : 48 ≤ c.toNat := h.1
  have high : c.toNat ≤ 57 := h.2
  simp only [isWhiteSpace, Bool.or_eq_false_iff, Bool.and_eq_false_iff, decide_eq_false_iff_not,
    beq_eq_false_iff_ne]
  omega

/-! ## Comma lists -/

/-- The pieces of a text between commas, trimmed, without those that are blank. -/
def commaItems (s : String) : List String :=
  ((s.toList.splitOn ',').map fun piece => trim (.ofList piece)).filter (· ≠ "")

theorem splitOn_eq_splitOn {α : Type} [BEq α] (separator : α) (xs : List α) :
    splitOn separator xs = xs.splitOn separator := by
  induction xs with
  | nil => rfl
  | cons x xs ih =>
    rw [splitOn, List.splitOn_cons_eq_if_modifyHead, ih]
    split
    · rfl
    · split
      · next none => exact absurd (ih.trans none) (splitOn_ne_nil separator xs)
      · next found => rw [found, List.modifyHead_cons]

theorem commaParts_eq_commaItems (s : String) : commaParts s = commaItems s := by
  rw [commaParts, commaItems, splitOn_eq_splitOn]
  induction s.toList.splitOn ',' with
  | nil => rfl
  | cons piece pieces ih =>
    by_cases blank : trimChars piece = [] <;> simp_all [trim]

/-- The white space around a text without commas is dropped from its one part. -/
theorem commaParts_trim {s : String} (h : ',' ∉ s.toList) : commaParts (trim s) = commaParts s := by
  rw [commaParts_of_not_mem h, commaParts_of_not_mem fun comma => h (mem_of_mem_trim comma),
    nonBlank?, nonBlank?, trim_trim]

/-- The items of a list that was written are those that were put into it. -/
theorem commaItems_joinTexts {xs : List String}
    (h : ∀ x ∈ xs, ',' ∉ x.toList ∧ trim x = x ∧ x ≠ "") : commaItems (joinTexts "," xs) = xs := by
  by_cases empty : xs = []
  · subst empty
    decide
  have pieces : splitOn ',' (joinTexts "," xs).toList = xs.map String.toList := by
    rw [joinTexts, String.toList_ofList]
    refine splitOn_joinWith (by simpa using empty) ?_
    simpa using fun x hx => (h x hx).1
  rw [commaItems, ← splitOn_eq_splitOn, pieces, List.map_map, List.filter_eq_self.2]
  · exact (List.map_congr_left fun x hx => by simpa using (h x hx).2.1).trans (List.map_id xs)
  · intro piece hp
    obtain ⟨x, hx, rfl⟩ := List.mem_map.1 hp
    simpa [(h x hx).2.1] using (h x hx).2.2

/-! ## Numerals -/

namespace Decimal

/-- The number that decimal digits stand for, the last of them for the units. -/
def decimalValue (ds : List Char) : Nat :=
  Nat.ofDigits 10 (ds.reverse.map fun d => d.toNat - '0'.toNat)

/-- Whether a text is an optional plus sign and at least one decimal digit, with a certain value. -/
def Denotes (cs : List Char) (n : Nat) : Prop :=
  ∃ ds, (cs = ds ∨ cs = '+' :: ds) ∧ ds ≠ [] ∧ (∀ d ∈ ds, d.isDigit) ∧ decimalValue ds = n

theorem decimalValue_cons (d : Char) (ds : List Char) :
    decimalValue (d :: ds) = (d.toNat - '0'.toNat) * 10 ^ ds.length + decimalValue ds := by
  simp only [decimalValue, List.reverse_cons, List.map_append, Nat.ofDigits_append,
    List.length_map, List.length_reverse, List.map_cons, List.map_nil, Nat.ofDigits_singleton]
  ring

theorem digitValue?_eq_some_iff {c : Char} {n : Nat} :
    digitValue? c = some n ↔ c.isDigit ∧ c.toNat - '0'.toNat = n := by
  have range : '0' ≤ c ∧ c ≤ '9' ↔ c.isDigit := by
    simp [Char.isDigit, Char.le_def]
  rw [digitValue?]
  split <;> simp_all

theorem readDigits?_eq_some_iff {acc n : Nat} {ds : List Char} :
    readDigits? acc ds = some n
      ↔ (∀ d ∈ ds, d.isDigit) ∧ acc * 10 ^ ds.length + decimalValue ds = n := by
  induction ds generalizing acc with
  | nil => simp [readDigits?, decimalValue]
  | cons d ds ih =>
    rw [readDigits?, List.forall_mem_cons, decimalValue_cons, List.length_cons]
    cases digit : digitValue? d with
    | none =>
      have other : ¬d.isDigit := fun h => by
        simp [digitValue?_eq_some_iff.2 ⟨h, rfl⟩] at digit
      simp [other]
    | some v =>
      obtain ⟨isDigit, rfl⟩ := digitValue?_eq_some_iff.1 digit
      have value : (10 * acc + (d.toNat - '0'.toNat)) * 10 ^ ds.length + decimalValue ds
          = acc * 10 ^ (ds.length + 1)
            + ((d.toNat - '0'.toNat) * 10 ^ ds.length + decimalValue ds) := by
        ring
      simp only [ih, value, isDigit, true_and]

theorem readNat?_eq_some_iff {n : Nat} {ds : List Char} :
    readNat? ds = some n ↔ ds ≠ [] ∧ (∀ d ∈ ds, d.isDigit) ∧ decimalValue ds = n := by
  cases ds with
  | nil => simp [readNat?]
  | cons d ds => rw [readNat?, readDigits?_eq_some_iff] <;> simp

theorem denotes_plus_iff {n : Nat} {ds : List Char} :
    Denotes ('+' :: ds) n ↔ readNat? ds = some n := by
  rw [readNat?_eq_some_iff]
  constructor
  · rintro ⟨es, rfl | same, some_digit, digits, value⟩
    · exact absurd (digits '+' List.mem_cons_self) (by decide)
    · obtain rfl := List.tail_eq_of_cons_eq same
      exact ⟨some_digit, digits, value⟩
  · exact fun numeral => ⟨ds, .inr rfl, numeral⟩

theorem denotes_unsigned_iff {n : Nat} {cs : List Char} (unsigned : ∀ ds, cs ≠ '+' :: ds) :
    Denotes cs n ↔ readNat? cs = some n := by
  rw [readNat?_eq_some_iff]
  constructor
  · rintro ⟨ds, rfl | rfl, numeral⟩
    · exact numeral
    · exact absurd rfl (unsigned ds)
  · exact fun numeral => ⟨cs, .inl rfl, numeral⟩

theorem readUpTo?_plus (limit : Nat) (ds : List Char) :
    readUpTo? limit ('+' :: ds) = (readNat? ds).filter (· ≤ limit) := by
  simp only [readUpTo?]
  cases readNat? ds <;> simp [Option.filter]

theorem readUpTo?_unsigned (limit : Nat) {cs : List Char} (unsigned : ∀ ds, cs ≠ '+' :: ds) :
    readUpTo? limit cs = (readNat? cs).filter (· ≤ limit) := by
  unfold readUpTo?
  split
  · next ds => exact absurd rfl (unsigned ds)
  · cases readNat? cs <;> simp [Option.filter]

/-- The numbers that are read are those that a text denotes and that are not too large. -/
theorem readUpTo?_eq_some_iff {limit n : Nat} {cs : List Char} :
    readUpTo? limit cs = some n ↔ Denotes cs n ∧ n ≤ limit := by
  by_cases signed : ∃ ds, cs = '+' :: ds
  case pos =>
    obtain ⟨ds, rfl⟩ := signed
    rw [readUpTo?_plus, denotes_plus_iff, Option.filter_eq_some_iff, decide_eq_true_iff]
  case neg =>
    rw [not_exists] at signed
    rw [readUpTo?_unsigned limit signed, denotes_unsigned_iff signed, Option.filter_eq_some_iff,
      decide_eq_true_iff]

theorem Denotes.unique {cs : List Char} {m n : Nat} (hm : Denotes cs m) (hn : Denotes cs n) :
    m = n := by
  have read_m := readUpTo?_eq_some_iff.2 ⟨hm, Nat.le_max_left m n⟩
  have read_n := readUpTo?_eq_some_iff.2 ⟨hn, Nat.le_max_right m n⟩
  exact Option.some.inj (read_m.symm.trans read_n)

/-! ### Numerals that are written -/

theorem denotes_of_readDigits? {ds : List Char} {n : Nat} (some_digit : ds ≠ [])
    (h : readDigits? 0 ds = some n) : Denotes ds n := by
  obtain ⟨digits, value⟩ := readDigits?_eq_some_iff.1 h
  exact ⟨ds, .inl rfl, some_digit, digits, by simpa using value⟩

theorem denotes_digits (n : Nat) : Denotes (digits n) n :=
  denotes_of_readDigits? (digits_ne_nil n) (readDigits?_digits n)

theorem trim_render (n : Nat) : trim (render n) = render n := by
  rw [trim, render, String.toList_ofList,
    trimChars_of_forall fun c hc => isWhiteSpace_of_isDigit (isDigit_of_mem hc)]

end Decimal

end TorznabGateway.Text
