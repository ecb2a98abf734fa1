import Mathlib.Algebra.Group.Nat.Defs
import Mathlib.Data.Bool.AllAny
import TorznabGateway.Proofs.Net.Escaped
import TorznabGateway.Text.Scan

/-!
# Addresses are read back

What is read as an address of version 6 has eight groups of 16 bits. Of the shortest form that is
written for them, the run of zeros that was left out is found again from the number of groups that
stand around it. Octets of an address of version 4 are read back one by one.

## Main definitions

* `IpAddress.Valid`: the numbers in an address are octets, or eight groups of 16 bits.

## Main statements

* `IpAddress.exists_v6Chars`: what is written for groups.
* `IpAddress.readV6_v6Chars`: groups are read back.
* `IpAddress.readV6_eq_some`: what is read are eight groups.
* `IpAddress.readV4_v4Chars`: octets are read back.
* `IpAddress.colon_mem_chars`: an address of version 6 is written with colons.
-/
namespace TorznabGateway

open Text

/-! ## Hexadecimal numerals -/

namespace Text.Hex

theorem digitValue?_lt {c : Char} {d : Nat} (h : digitValue? c = some d) : d < 16 := by
  simp only [digitValue?, Char.le_def, UInt32.le_iff_toNat_le] at h
  change (if _ ∧ c.toNat ≤ 57 then some (c.toNat - 48)
    else if _ ∧ c.toNat ≤ 102 then some (c.toNat - 97 + 10)
    else if _ ∧ c.toNat ≤ 70 then some (c.toNat - 65 + 10) else none) = some d at h
  grind

theorem readDigits?_lt {acc n : Nat} {ds : List Char} (h : readDigits? acc ds = some n) :
    n < (acc + 1) * 16 ^ ds.length := by
  induction ds generalizing acc with
  | nil => simp_all [readDigits?]
  | cons c cs ih =>
    rw [readDigits?] at h
    split at h
    · next d value =>
      have := digitValue?_lt value
      calc n < (16 * acc + d + 1) * 16 ^ cs.length := ih h
        _ ≤ (16 * (acc + 1)) * 16 ^ cs.length := Nat.mul_le_mul_right _ (by omega)
        _ = (acc + 1) * 16 ^ (c :: cs).length := by
          rw [List.length_cons, Nat.pow_succ, Nat.mul_comm 16, Nat.mul_assoc, Nat.mul_comm 16]
    · simp at h

/-- The value of written digits, with zeros in front or without. -/
theorem readDigits?_map_digit {ds : List Nat} (h : ∀ d ∈ ds, d < 16) (acc : Nat) :
    readDigits? acc (ds.map digit) = some (ds.foldl (fun n d => 16 * n + d) acc) := by
  induction ds generalizing acc with
  | nil => rfl
  | cons d ds ih =>
    rw [List.forall_mem_cons] at h
    rw [List.map_cons, readDigits?, digitValue?_digit h.1]
    exact ih h.2 _

end Text.Hex

namespace IpAddress

/-! ## Runs of zeros -/

theorem exists_zeroRun (gs : List Nat) : ∃ back, gs = List.replicate (zeroRun gs) 0 ++ back := by
  induction gs with
  | nil => exact ⟨[], rfl⟩
  | cons g gs ih =>
    obtain ⟨back, run⟩ := ih
    by_cases zero : g = 0
    · refine ⟨back, ?_⟩
      rw [zeroRun, if_pos zero, List.replicate_succ, List.cons_append, ← run, zero]
    · exact ⟨g :: gs, by simp [zeroRun, zero]⟩

/-- The longest run of zeros has groups in front of it and behind it. -/
theorem exists_longestRun (start : Nat) (gs : List Nat) : ∃ front length back,
    longestRun start gs = (start + front.length, length)
      ∧ gs = front ++ List.replicate length 0 ++ back := by
  induction gs generalizing start with
  | nil => exact ⟨[], 0, [], rfl, rfl⟩
  | cons g gs ih =>
    obtain ⟨front, length, back, later, run⟩ := ih (start + 1)
    rw [longestRun, later]
    dsimp only
    split
    · obtain ⟨back, here⟩ := exists_zeroRun (g :: gs)
      exact ⟨[], _, back, rfl, by simpa using here⟩
    · refine ⟨g :: front, length, back, ?_, by rw [run]; rfl⟩
      rw [List.length_cons]
      exact congrArg (·, length) (by omega)

/-- What is written for groups: all of them, or those around a run of zeros. -/
theorem exists_v6Chars (groups : List Nat) :
    v6Chars groups = groupsChars groups
      ∨ ∃ front length back, 2 ≤ length ∧ groups = front ++ List.replicate length 0 ++ back
        ∧ v6Chars groups = groupsChars front ++ [':', ':'] ++ groupsChars back := by
  obtain ⟨front, length, back, longest, run⟩ := exists_longestRun 0 groups
  rw [v6Chars, longest]
  dsimp only
  split
  · next long =>
    refine .inr ⟨front, length, back, long, run, ?_⟩
    have behind : groups.drop (0 + front.length + length) = back := by
      have size : 0 + front.length + length = (front ++ List.replicate length 0).length := by simp
      rw [run, size, List.drop_left]
    have before : groups.take (0 + front.length) = front := by
      rw [run, List.append_assoc, Nat.zero_add, List.take_left]
    rw [behind, before]
  · exact .inl rfl

/-! ## Groups -/

theorem groupChars_digits (n : Nat) :
    ∃ ds : List Nat, groupChars n = ds.map Hex.digit ∧ ds ≠ [] ∧ ds.length ≤ 4
      ∧ (∀ d ∈ ds, d < 16) ∧ ds.foldl (fun n d => 16 * n + d) 0 = n % 65536 := by
  refine ⟨_, rfl, by simp, ?_, ?_, ?_⟩
  · have := (List.dropWhile_suffix (l := [n / 4096 % 16, n / 256 % 16, n / 16 % 16])
      (· == 0)).length_le
    simp only [List.length_append, List.length_cons, List.length_nil] at this ⊢
    omega
  · intro d hd
    rcases List.mem_append.1 hd with high | low
    · have := (List.dropWhile_sublist _).mem high
      simp only [List.mem_cons, List.not_mem_nil, or_false] at this
      omega
    · have := List.mem_singleton.1 low
      omega
  · simp only [List.dropWhile_cons, beq_iff_eq, List.foldl_append, List.foldl_cons, List.foldl_nil]
    split
    · split
      · split <;> simp <;> omega
      · simp; omega
    · simp; omega

theorem point_not_mem_groupChars (n : Nat) : '.' ∉ groupChars n := by
  obtain ⟨ds, written, -, -, digits, -⟩ := groupChars_digits n
  have points : ∀ d < 16, Hex.digit d ≠ '.' := by decide
  rw [written]
  intro point
  obtain ⟨d, hd, same⟩ := List.mem_map.1 point
  exact points d (digits d hd) same

/-- A group is read back, up to what is no digit. -/
theorem readGroup_groupChars_append {n : Nat} (small : n < 65536) {rest : List Char}
    (ends : ∀ c ∈ rest.head?, (Hex.digitValue? c).isSome = false) :
    readGroup (groupChars n ++ rest) = some (n, rest) := by
  obtain ⟨ds, written, some_digit, short, digits, value⟩ := groupChars_digits n
  have hex (c : Char) (hc : c ∈ ds.map Hex.digit) : (Hex.digitValue? c).isSome := by
    obtain ⟨d, hd, rfl⟩ := List.mem_map.1 hc
    rw [Hex.digitValue?_digit (digits d hd)]
    rfl
  rw [readGroup, written, takeWhile_append_of_head? hex ends, dropWhile_append_of_head? hex ends,
    Hex.readDigits?_map_digit digits, value, Nat.mod_eq_of_lt small,
    if_neg (by simp [some_digit, short])]
  rfl

/-- Groups that stand behind others. -/
def laterChars (gs : List Nat) : List Char :=
  gs.flatMap fun g => ':' :: groupChars g

theorem groupsChars_cons (g : Nat) (gs : List Nat) :
    groupsChars (g :: gs) = groupChars g ++ laterChars gs := by
  rw [groupsChars]
  induction gs generalizing g with
  | nil => simp [joinWith, laterChars]
  | cons h gs ih =>
    rw [List.map_cons, List.map_cons, joinWith, ← List.map_cons, ih]
    simp [laterChars]

/-! ## Reading groups -/

/-- No address of version 4 is read where there is no point. -/
theorem readV4_of_not_mem {cs : List Char} (no_point : '.' ∉ cs) : readV4 cs = none := by
  rw [readV4]
  cases octet : readOctet cs with
  | none => rfl
  | some read =>
    obtain ⟨n, rest⟩ := read
    have suffix : rest <:+ cs := by
      unfold readOctet at octet
      dsimp only at octet
      split at octet
      · simp at octet
      split at octet
      · split at octet
        · obtain ⟨-, rfl⟩ := Prod.mk.inj (Option.some.inj octet)
          exact List.dropWhile_suffix _
        · simp at octet
      · simp at octet
    cases rest with
    | nil => rfl
    | cons c rest =>
      have : c ≠ '.' := by
        rintro rfl
        exact no_point (suffix.mem List.mem_cons_self)
      simp [this]

/-- Where groups end: the text ends there, or two colons follow. -/
def EndsGroups (rest : List Char) : Prop :=
  rest = [] ∨ ∃ cs, rest = ':' :: ':' :: cs

theorem readGroups_of_endsGroups {rest : List Char} (ends : EndsGroups rest) (first : Bool)
    (limit : Nat) : readGroups first limit rest = ([], false, rest) := by
  cases limit with
  | zero => rfl
  | succ limit =>
    have no_octet : (behindColon first rest).bind readV4 = none := by
      rcases ends with rfl | ⟨cs, rfl⟩ <;> cases first <;> rfl
    have no_group : (behindColon first rest).bind readGroup = none := by
      rcases ends with rfl | ⟨cs, rfl⟩ <;> cases first <;> rfl
    rw [readGroups, no_octet, no_group]
    simp

/-- A group that is read in front of others. -/
theorem readGroups_succ {first : Bool} {text more : List Char} {g : Nat}
    (start : behindColon first text = some (groupChars g ++ more)) (small : g < 65536)
    (no_point : '.' ∉ more) (ends : ∀ c ∈ more.head?, (Hex.digitValue? c).isSome = false)
    (limit : Nat) :
    readGroups first (limit + 1) text
      = (g :: (readGroups false limit more).1, (readGroups false limit more).2) := by
  have no_octet : readV4 (groupChars g ++ more) = none :=
    readV4_of_not_mem (List.not_mem_append (point_not_mem_groupChars g) no_point)
  rw [readGroups, start, Option.bind_some, Option.bind_some, no_octet,
    readGroup_groupChars_append small ends]
  simp

section

variable {gs : List Nat} {rest : List Char}

theorem not_mem_laterChars (no_point : '.' ∉ rest) : '.' ∉ laterChars gs ++ rest := by
  refine List.not_mem_append (fun point => ?_) no_point
  obtain ⟨g, -, hc⟩ := List.mem_flatMap.1 point
  rcases List.mem_cons.1 hc with colon | digit
  · exact absurd colon (by decide)
  · exact point_not_mem_groupChars g digit

theorem head?_laterChars (ends : EndsGroups rest) :
    ∀ c ∈ (laterChars gs ++ rest).head?, (Hex.digitValue? c).isSome = false := by
  have colon : Hex.digitValue? ':' = none := rfl
  cases gs with
  | nil => rcases ends with rfl | ⟨cs, rfl⟩ <;> simp [laterChars, colon]
  | cons g gs => simp [laterChars, colon]

theorem readGroups_laterChars (small : ∀ g ∈ gs, g < 65536) (no_point : '.' ∉ rest)
    (ends : EndsGroups rest) {limit : Nat} (fits : gs.length ≤ limit) :
    readGroups false limit (laterChars gs ++ rest) = (gs, false, rest) := by
  induction gs generalizing limit with
  | nil => exact readGroups_of_endsGroups ends false limit
  | cons g gs ih =>
    obtain ⟨limit, rfl⟩ := Nat.exists_eq_succ_of_ne_zero (Nat.ne_zero_of_lt fits)
    rw [List.forall_mem_cons] at small
    have start : behindColon false (laterChars (g :: gs) ++ rest)
        = some (groupChars g ++ (laterChars gs ++ rest)) := by
      simp [behindColon, laterChars]
    rw [readGroups_succ start small.1 (not_mem_laterChars no_point) (head?_laterChars ends),
      ih small.2 (Nat.le_of_succ_le_succ fits)]

/-- Groups are read back from what is written for them. -/
theorem readGroups_groupsChars (small : ∀ g ∈ gs, g < 65536) (no_point : '.' ∉ rest)
    (ends : EndsGroups rest) {limit : Nat} (fits : gs.length ≤ limit) :
    readGroups true limit (groupsChars gs ++ rest) = (gs, false, rest) := by
  cases gs with
  | nil => exact readGroups_of_endsGroups ends true limit
  | cons g gs =>
    obtain ⟨limit, rfl⟩ := Nat.exists_eq_succ_of_ne_zero (Nat.ne_zero_of_lt fits)
    rw [List.forall_mem_cons] at small
    have start : behindColon true (groupsChars (g :: gs) ++ rest)
        = some (groupChars g ++ (laterChars gs ++ rest)) := by
      simp [behindColon, groupsChars_cons]
    rw [readGroups_succ start small.1 (not_mem_laterChars no_point) (head?_laterChars ends),
      readGroups_laterChars small.2 no_point ends (Nat.le_of_succ_le_succ fits)]

end

/-- Eight groups are read back from their shortest form. -/
theorem readV6_v6Chars {groups : List Nat} (eight : groups.length = 8)
    (small : ∀ g ∈ groups, g < 65536) : readV6 (v6Chars groups) = some (.v6 groups) := by
  rcases exists_v6Chars groups with whole | ⟨front, length, back, long, rfl, shortened⟩
  case inl =>
    have read := readGroups_groupsChars small List.not_mem_nil (.inl rfl) (Nat.le_of_eq eight)
    rw [List.append_nil] at read
    rw [whole, readV6, read]
    simp [eight]
  case inr =>
    simp only [List.length_append, List.length_replicate] at eight
    have small_front (g : Nat) (hg : g ∈ front) : g < 65536 := small g (by simp [hg])
    have small_back (g : Nat) (hg : g ∈ back) : g < 65536 := small g (by simp [hg])
    have no_point : '.' ∉ [':', ':'] ++ groupsChars back := by
      refine List.not_mem_append (by decide) ?_
      cases back with
      | nil => simp [groupsChars, joinWith]
      | cons g gs =>
        rw [groupsChars_cons]
        have later : '.' ∉ laterChars gs ++ [] := not_mem_laterChars (by simp)
        exact List.not_mem_append (point_not_mem_groupChars g) (by simpa using later)
    have fits : front.length ≤ 8 := by omega
    have fits_back : back.length ≤ 7 - front.length := by omega
    have read := readGroups_groupsChars small_front no_point (.inr ⟨_, rfl⟩) fits
    have read_back := readGroups_groupsChars small_back List.not_mem_nil (.inl rfl) fits_back
    have zeros : 8 - front.length - back.length = length := by omega
    rw [List.append_nil] at read_back
    rw [shortened, List.append_assoc, readV6, read]
    dsimp only
    rw [if_neg (by omega), if_neg (by simp)]
    simp only [List.cons_append, List.nil_append, read_back, List.isEmpty_nil, if_true, zeros]

/-! ## What is read -/

theorem readOctet_le {cs rest : List Char} {n : Nat} (h : readOctet cs = some (n, rest)) :
    n ≤ 255 := by
  unfold readOctet at h
  dsimp only at h
  split at h
  · simp at h
  split at h
  · split at h
    · next bounded => exact (Prod.mk.inj (Option.some.inj h)).1 ▸ bounded
    · simp at h
  · simp at h

theorem readV4_le {cs rest : List Char} {a b c d : Nat} (h : readV4 cs = some (a, b, c, d, rest)) :
    a ≤ 255 ∧ b ≤ 255 ∧ c ≤ 255 ∧ d ≤ 255 := by
  simp only [readV4, Option.bind_eq_bind, Option.bind_eq_some_iff, Option.pure_def,
    Option.some.injEq, Prod.exists, Prod.mk.injEq] at h
  obtain ⟨_, _, ha, _, _, _, _, hb, _, _, _, _, hc, _, _, _, _, hd, rfl, rfl, rfl, rfl, -⟩ := h
  exact ⟨readOctet_le ha, readOctet_le hb, readOctet_le hc, readOctet_le hd⟩

theorem readGroup_lt {cs rest : List Char} {n : Nat} (h : readGroup cs = some (n, rest)) :
    n < 65536 := by
  unfold readGroup at h
  dsimp only at h
  split at h
  · simp at h
  · next allowed =>
    obtain ⟨value, read, same⟩ := Option.map_eq_some_iff.1 h
    obtain ⟨rfl, -⟩ := Prod.mk.inj same
    simp only [Bool.or_eq_true, decide_eq_true_eq, not_or, Nat.not_lt] at allowed
    calc value < (0 + 1) * 16 ^ _ := Hex.readDigits?_lt read
      _ ≤ 16 ^ 4 := by
        rw [Nat.zero_add, Nat.one_mul]
        exact Nat.pow_le_pow_right (by decide) allowed.2

theorem readGroups_spec (first : Bool) (limit : Nat) (cs : List Char) :
    (readGroups first limit cs).1.length ≤ limit
      ∧ ∀ g ∈ (readGroups first limit cs).1, g < 65536 := by
  induction limit generalizing first cs with
  | zero => simp [readGroups]
  | succ limit ih =>
    rw [readGroups]
    dsimp only
    split
    · next a b c d rest embedded =>
      split at embedded
      · simp at embedded
      · obtain ⟨text, -, read⟩ := Option.bind_eq_some_iff.1 embedded
        have := readV4_le read
        simp
        omega
    · split
      · simp
      · next g rest group =>
        obtain ⟨text, -, read⟩ := Option.bind_eq_some_iff.1 group
        have later := ih false rest
        simpa [readGroup_lt read] using later

/-- What is read as an address of version 6 are eight groups of 16 bits. -/
theorem readV6_eq_some {cs : List Char} {a : IpAddress} (h : readV6 cs = some a) :
    ∃ groups, a = .v6 groups ∧ groups.length = 8 ∧ ∀ g ∈ groups, g < 65536 := by
  have front := readGroups_spec true 8 cs
  unfold readV6 at h
  dsimp only at h
  split at h
  · next eight =>
    split at h
    · exact ⟨_, (Option.some.inj h).symm, eight, front.2⟩
    · simp at h
  · next not_eight =>
    split at h
    · simp at h
    split at h
    · next rest _ =>
      split at h
      · have back := readGroups_spec true (7 - (readGroups true 8 cs).1.length) rest
        refine ⟨_, (Option.some.inj h).symm, ?_, ?_⟩
        · simp only [List.length_append, List.length_replicate]
          omega
        · intro g hg
          simp only [List.mem_append, List.mem_replicate] at hg
          rcases hg with (hg | ⟨-, rfl⟩) | hg
          · exact front.2 g hg
          · decide
          · exact back.2 g hg
      · simp at h
    · simp at h

/-! ## Octets -/

/-- An octet is read back, up to what is no digit. -/
theorem readOctet_digits_append {n : Nat} (octet : n ≤ 255) {rest : List Char}
    (ends : ∀ c ∈ rest.head?, (Decimal.digitValue? c).isSome = false) :
    readOctet (Decimal.digits n ++ rest) = some (n, rest) := by
  have short : ∀ k < 256, (Decimal.digits k).length ≤ 3
      ∧ (((Decimal.digits k).head? == some '0') && 1 < (Decimal.digits k).length) = false := by
    decide +kernel
  have digit (c : Char) (hc : c ∈ Decimal.digits n) : (Decimal.digitValue? c).isSome := by
    have := Decimal.isDigit_of_mem hc
    simp_all [Decimal.digitValue?, Char.isDigit, Char.le_def]
  have plain := short n (by omega)
  rw [readOctet, takeWhile_append_of_head? digit ends, dropWhile_append_of_head? digit ends]
  rw [plain.2, if_neg (by simp [Decimal.digits_ne_nil, plain.1]), Decimal.readNat?_digits]
  exact if_pos octet

theorem readV4_v4Chars {a b c d : Nat} (ha : a ≤ 255) (hb : b ≤ 255) (hc : c ≤ 255)
    (hd : d ≤ 255) : readV4 (v4Chars a b c d) = some (a, b, c, d, []) := by
  have point (cs : List Char) :
      ∀ c ∈ ('.' :: cs).head?, (Decimal.digitValue? c).isSome = false := by
    rintro c ⟨⟩
    decide
  have last : readOctet (Decimal.digits d) = some (d, []) := by
    simpa using readOctet_digits_append hd (by simp : ∀ c ∈ ([] : List Char).head?, _)
  have written : v4Chars a b c d = Decimal.digits a ++ '.' :: (Decimal.digits b
      ++ '.' :: (Decimal.digits c ++ '.' :: Decimal.digits d)) := by
    simp [v4Chars, joinWith]
  rw [written, readV4, readOctet_digits_append ha (point _)]
  simp [readOctet_digits_append hb (point _), readOctet_digits_append hc (point _), last]

/-! ## Addresses -/

/-- The numbers in an address are octets, or eight groups of 16 bits. -/
def Valid : IpAddress → Prop
  | .v4 a b c d => a ≤ 255 ∧ b ≤ 255 ∧ c ≤ 255 ∧ d ≤ 255
  | .v6 groups => groups.length = 8 ∧ ∀ g ∈ groups, g < 65536

instance : DecidablePred Valid
  | .v4 a b c d => inferInstanceAs (Decidable (a ≤ 255 ∧ b ≤ 255 ∧ c ≤ 255 ∧ d ≤ 255))
  | .v6 groups => inferInstanceAs (Decidable (groups.length = 8 ∧ ∀ g ∈ groups, g < 65536))

theorem valid_of_parse? {s : String} {a : IpAddress} (h : parse? s = some a) : a.Valid := by
  unfold parse? at h
  split at h
  · next a b c d rest read =>
    split at h
    · exact Option.some.inj h ▸ readV4_le read
    · simp at h
  · obtain ⟨groups, rfl, eight, small⟩ := readV6_eq_some h
    exact ⟨eight, small⟩

theorem mem_chars {a : IpAddress} {ch : Char} (h : ch ∈ a.chars) :
    ch = '.' ∨ ch = ':' ∨ ch.isDigit ∨ ∃ n < 16, ch = Hex.digit n := by
  unfold chars at h
  split at h
  · exact (mem_v4Chars h).imp_right fun digit => .inr (.inl digit)
  · have front : ∀ c ∈ "::ffff:".toList, c = ':' ∨ c = Hex.digit 15 :=
      List.all_iff_forall_prop.1 (by decide)
    rcases List.mem_append.1 h with h | h
    · exact .inr ((front ch h).imp_right fun digit => .inr ⟨15, by decide, digit⟩)
    · exact (mem_v4Chars h).imp_right fun digit => .inr (.inl digit)
  · exact .inr ((mem_v6Chars h).imp_right .inr)

theorem colon_mem_groupsChars {groups : List Nat} (two : 2 ≤ groups.length) :
    ':' ∈ groupsChars groups := by
  obtain ⟨g, h, gs, rfl⟩ : ∃ g h gs, groups = g :: h :: gs := by
    match groups, two with
    | g :: h :: gs, _ => exact ⟨g, h, gs, rfl⟩
  simp [groupsChars_cons, laterChars]

theorem colon_mem_chars {groups : List Nat} (valid : (v6 groups).Valid) :
    ':' ∈ (v6 groups).chars := by
  unfold chars
  split
  · simp_all
  · simp
  · next same =>
    obtain rfl := v6.inj same
    rcases exists_v6Chars groups with whole | ⟨front, length, back, -, -, shortened⟩
    · rw [whole]
      exact colon_mem_groupsChars (by rw [valid.1]; decide)
    · simp [shortened]

end IpAddress

end TorznabGateway
