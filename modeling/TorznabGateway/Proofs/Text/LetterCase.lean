import TorznabGateway.Text.AsciiCase
import TorznabGateway.Text.Lowercase

/-!
# Two ways to ignore letter case

Names are compared up to the case of ASCII letters in one place, and by their full lower-case form
in another. The second comparison identifies whatever the first one does: lower-casing a text does
not depend on the case of its ASCII letters, not even where the form of a sigma depends on the
letters around it.

## Main statements

* `lowercase_asciiLower`: lower-casing ASCII letters first changes nothing.
* `lowercase_eq_of_eqIgnoreAsciiCase`: texts that agree up to ASCII case have one lower-case form.
-/
namespace TorznabGateway.Text

/-! ## Characters -/

/-- What is the same for a capital letter of ASCII and the small one is the same for any character
and its form without capitals. -/
theorem toLower_congr {β : Type} {f : Char → β}
    (letters : ∀ n < 26, f (.ofNat (0x61 + n)) = f (.ofNat (0x41 + n))) (c : Char) :
    f c.toLower = f c := by
  by_cases upper : c.val ≥ 'A'.val ∧ c.val ≤ 'Z'.val
  · obtain ⟨n, small, rfl⟩ : ∃ n < 26, c = .ofNat (0x41 + n) := by
      have low := UInt32.le_iff_toNat_le.1 upper.1
      have high := UInt32.le_iff_toNat_le.1 upper.2
      change 0x41 ≤ c.toNat at low
      change c.toNat ≤ 0x5A at high
      refine ⟨c.toNat - 0x41, by omega, ?_⟩
      rw [Nat.add_sub_cancel' low, Char.ofNat_toNat]
    have lower : ∀ n < 26, (Char.ofNat (0x41 + n)).toLower = .ofNat (0x61 + n) := by decide
    rw [lower n small, letters n small]
  · exact congrArg f (dif_neg upper)

theorem toLower_toLower (c : Char) : c.toLower.toLower = c.toLower :=
  toLower_congr (f := Char.toLower) (by decide) c

theorem isCased_toLower (c : Char) : isCased c.toLower = isCased c :=
  toLower_congr (by decide +kernel) c

/-- No letter of ASCII is passed over. -/
theorem isCaseIgnorable_toLower (c : Char) : isCaseIgnorable c.toLower = isCaseIgnorable c := by
  have apart : ∀ r ∈ CaseTable.ignorableRanges,
      r.2 < 0x41 ∨ (0x5A < r.1 ∧ r.2 < 0x61) ∨ 0x7A < r.1 := by decide +kernel
  have code : ∀ n < 0x80, (Char.ofNat n).toNat = n := by decide
  refine toLower_congr (fun n small => ?_) c
  have passed {m : Nat} (ascii : m < 0x80) (letter : (0x41 ≤ m ∧ m ≤ 0x5A) ∨ 0x61 ≤ m ∧ m ≤ 0x7A) :
      isCaseIgnorable (.ofNat m) = false := by
    rw [isCaseIgnorable, inRanges, code m ascii, List.any_eq_false]
    intro r hr
    have := apart r hr
    simp only [Bool.and_eq_true, decide_eq_true_eq]
    omega
  rw [passed (by omega) (by omega), passed (by omega) (by omega)]

theorem lowerChar_toLower (c : Char) : lowerChar c.toLower = lowerChar c :=
  toLower_congr (by decide +kernel) c

theorem toLower_eq_sigma_iff (c : Char) : c.toLower = '\u03A3' ↔ c = '\u03A3' := by
  have same := toLower_congr (f := (· == '\u03A3')) (by decide +kernel) c
  rw [← beq_iff_eq, same, beq_iff_eq]

/-! ## Texts -/

theorem startsCased_map_toLower (cs : List Char) :
    startsCased (cs.map Char.toLower) = startsCased cs := by
  induction cs with
  | nil => rfl
  | cons c cs ih =>
    unfold startsCased at ih ⊢
    rw [List.map_cons, List.dropWhile_cons, List.dropWhile_cons, isCaseIgnorable_toLower]
    by_cases ignored : isCaseIgnorable c
    · rw [if_pos ignored, if_pos ignored]
      exact ih
    · rw [if_neg ignored, if_neg ignored]
      exact isCased_toLower c

theorem lowerFrom_map_toLower (before cs : List Char) :
    lowerFrom (before.map Char.toLower) (cs.map Char.toLower) = lowerFrom before cs := by
  induction cs generalizing before with
  | nil => rfl
  | cons c cs ih =>
    have rest := ih (c :: before)
    rw [List.map_cons] at rest
    simp only [List.map_cons, lowerFrom, toLower_eq_sigma_iff, startsCased_map_toLower,
      lowerChar_toLower, rest]

theorem lowercase_asciiLower (s : String) : lowercase (asciiLower s) = lowercase s := by
  rw [lowercase, toList_asciiLower]
  exact congrArg String.ofList (lowerFrom_map_toLower [] s.toList)

theorem eqIgnoreAsciiCase_iff_asciiLower (a b : String) :
    eqIgnoreAsciiCase a b ↔ asciiLower a = asciiLower b := by
  rw [eqIgnoreAsciiCase_iff, asciiLower, asciiLower, String.ofList_inj]

theorem lowercase_eq_of_eqIgnoreAsciiCase {a b : String} (h : eqIgnoreAsciiCase a b) :
    lowercase a = lowercase b := by
  rw [← lowercase_asciiLower a, (eqIgnoreAsciiCase_iff_asciiLower a b).1 h, lowercase_asciiLower]

end TorznabGateway.Text
