import Mathlib.Data.Bool.AllAny
import Mathlib.Data.List.TakeWhile
import TorznabGateway.Net.Url.Parser

/-!
# How a URL is taken apart

A URL is cleaned, cut at the first number sign, at the first colon, and at the first question mark
behind it. What is written for a URL has its parts in the same order.

## Main definitions

* `Url.InScheme`: the characters of a scheme.
* `Url.headChars`: what stands in front of the query.

## Main statements

* `Url.exists_clean_append`: cleaning keeps what is visible at the end of a text.
* `Url.splitAtMark_eq_iff`: where a text is cut.
* `Url.parse?_eq_some_iff`: what reading a URL comes to.
-/
namespace TorznabGateway.Url

open Text

/-! ## Cleaning -/

section

variable {p : Char → Bool} {tail : List Char}

theorem dropWhile_append_kept (xs : List Char) (kept : ∀ c ∈ tail, p c = false) :
    (xs ++ tail).dropWhile p = xs.dropWhile p ++ tail := by
  have whole : tail.dropWhile p = tail := by
    cases tail with
    | nil => rfl
    | cons c cs => rw [List.dropWhile_cons, if_neg (by simp [kept c List.mem_cons_self])]
  rw [List.dropWhile_append, whole]
  split <;> simp_all

/-- What is kept at the end of a text protects what stands in front of it. -/
theorem exists_dropEndWhile_append (xs : List Char) (kept : ∀ c ∈ tail, p c = false) :
    ∃ ys, ys.Sublist xs ∧ dropEndWhile p (xs ++ tail) = ys ++ tail := by
  cases ending : tail.reverse with
  | nil =>
    obtain rfl := List.reverse_eq_nil_iff.1 ending
    refine ⟨dropEndWhile p xs, ?_, by simp⟩
    rw [dropEndWhile, ← List.reverse_sublist, List.reverse_reverse]
    exact List.dropWhile_sublist _
  | cons last before =>
    have stays : p last = false := kept last (List.mem_reverse.1 (ending ▸ List.mem_cons_self))
    refine ⟨xs, List.Sublist.refl xs, ?_⟩
    rw [dropEndWhile, List.reverse_append, ending, List.cons_append, List.dropWhile_cons,
      if_neg (by simp [stays]), ← List.cons_append, ← ending, ← List.reverse_append,
      List.reverse_reverse]

/-- No printable character is dropped within a text. -/
theorem kept_of_printable {c : Char} (h : 0x20 ≤ c.toNat) :
    (c != '\t' && c != '\n' && c != '\r') = true := by
  simp only [Bool.and_eq_true, bne_iff_ne]
  refine ⟨⟨?_, ?_⟩, ?_⟩ <;> rintro rfl <;> exact absurd h (by decide)

/-- Cleaning a text takes nothing from visible characters at its end. -/
theorem exists_clean_append (xs : List Char) (visible : ∀ c ∈ tail, 0x20 < c.toNat) :
    ∃ ys, ys.Sublist xs ∧ clean (xs ++ tail) = ys ++ tail := by
  let isOuter := fun c : Char => decide (c.toNat ≤ 0x20)
  let isKept := fun c : Char => c != '\t' && c != '\n' && c != '\r'
  have inner (c : Char) (hc : c ∈ tail) : isOuter c = false := by
    simpa [isOuter] using visible c hc
  have kept : tail.filter isKept = tail :=
    List.filter_eq_self.2 fun c hc => kept_of_printable (Nat.le_of_lt (visible c hc))
  obtain ⟨ys, sub, cut⟩ := exists_dropEndWhile_append (xs.dropWhile isOuter) inner
  refine ⟨ys.filter isKept,
    List.filter_sublist.trans (sub.trans (List.dropWhile_sublist isOuter)), ?_⟩
  calc clean (xs ++ tail)
      = (dropEndWhile isOuter ((xs ++ tail).dropWhile isOuter)).filter isKept := rfl
    _ = ys.filter isKept ++ tail := by
      rw [dropWhile_append_kept xs inner, cut, List.filter_append, kept]

end

/-- A text of printable characters is read as it is, if there is no blank around it. -/
theorem clean_of_printable {cs : List Char} (printable : ∀ c ∈ cs, 0x20 ≤ c.toNat)
    (first : ∀ c ∈ cs.head?, 0x20 < c.toNat) (last : ∀ c ∈ cs.getLast?, 0x20 < c.toNat) :
    clean cs = cs := by
  have front : cs.dropWhile (fun c => decide (c.toNat ≤ 0x20)) = cs :=
    dropWhile_of_head? fun c hc => by simpa using first c hc
  have back : dropEndWhile (fun c => decide (c.toNat ≤ 0x20)) cs = cs :=
    dropEndWhile_of_getLast? fun c hc => by simpa using last c hc
  rw [clean, front, back, List.filter_eq_self]
  exact fun c hc => kept_of_printable (printable c hc)

theorem clean_sublist (cs : List Char) : (clean cs).Sublist cs := by
  obtain ⟨ys, sub, cut⟩ := exists_clean_append cs (List.forall_mem_nil _)
  rw [List.append_nil, List.append_nil] at cut
  exact cut ▸ sub

theorem exists_clean_cons {c : Char} (visible : 0x20 < c.toNat) (cs : List Char) :
    ∃ ds, clean (c :: cs) = c :: ds := by
  let isOuter := fun c : Char => decide (c.toNat ≤ 0x20)
  have stays : isOuter c = false := by simpa [isOuter] using visible
  have front : (c :: cs).dropWhile isOuter = c :: cs := by simp [stays]
  have back : dropEndWhile isOuter (c :: cs) = c :: dropEndWhile isOuter cs := by
    rw [dropEndWhile, List.reverse_cons, dropWhile_append_kept _ (by simpa using stays)]
    simp [dropEndWhile]
  let isKept := fun c : Char => c != '\t' && c != '\n' && c != '\r'
  have kept : isKept c = true := kept_of_printable (Nat.le_of_lt visible)
  refine ⟨(dropEndWhile isOuter cs).filter isKept, ?_⟩
  calc clean (c :: cs)
      = (dropEndWhile isOuter ((c :: cs).dropWhile isOuter)).filter isKept := rfl
    _ = c :: (dropEndWhile isOuter cs).filter isKept := by
      rw [front, back, List.filter_cons_of_pos kept]

/-! ## Splitting at a mark -/

/-- A text is cut at its first mark, and nowhere else. -/
theorem splitAtMark_eq_iff {mark : Char} {cs before : List Char} {part : Option (List Char)} :
    splitAtMark mark cs = (before, part) ↔ mark ∉ before ∧ cs = before ++ behind mark part := by
  constructor
  · intro h
    by_cases hm : mark ∈ cs
    · obtain ⟨xs, ys, rfl, first⟩ := List.eq_append_cons_of_mem hm
      rw [splitAtMark, if_pos (by simp), splitFirst_append_cons ys first] at h
      obtain ⟨rfl, rfl⟩ := Prod.mk.inj h
      exact ⟨first, rfl⟩
    · rw [splitAtMark, if_neg (by simpa using hm)] at h
      obtain ⟨rfl, rfl⟩ := Prod.mk.inj h
      exact ⟨hm, (List.append_nil _).symm⟩
  · rintro ⟨first, rfl⟩
    cases part with
    | some after => rw [behind, splitAtMark, if_pos (by simp), splitFirst_append_cons after first]
    | none => rw [behind, List.append_nil, splitAtMark, if_neg (by simpa using first)]

theorem splitAtMark_spec (mark : Char) (cs : List Char) :
    mark ∉ (splitAtMark mark cs).1
      ∧ cs = (splitAtMark mark cs).1 ++ behind mark (splitAtMark mark cs).2 :=
  splitAtMark_eq_iff.1 rfl

/-- What stands in front of every mark does not change where a text is cut. -/
theorem splitAtMark_append {mark : Char} {xs : List Char} (h : mark ∉ xs) (ys : List Char) :
    splitAtMark mark (xs ++ ys) = (xs ++ (splitAtMark mark ys).1, (splitAtMark mark ys).2) := by
  obtain ⟨first, whole⟩ := splitAtMark_spec mark ys
  refine splitAtMark_eq_iff.2 ⟨by simp [h, first], ?_⟩
  rw [List.append_assoc, ← whole]

/-- What stands in front of a mark, in the text that is read, stands in the text. -/
theorem splitAtMark_sublist (mark : Char) (cs : List Char) :
    (splitAtMark mark cs).1.Sublist cs := by
  have start : (splitAtMark mark cs).1 <+: cs := ⟨_, (splitAtMark_spec mark cs).2.symm⟩
  exact start.sublist

theorem mem_behind {mark c : Char} {part : Option (List Char)} (h : c ∈ behind mark part) :
    c = mark ∨ c ∈ part.getD [] := by
  cases part with
  | none => simp [behind] at h
  | some cs => exact List.mem_cons.1 h

/-! ## Schemes -/

/-- Whether a character can stand in a scheme. -/
def InScheme (c : Char) : Prop :=
  c.isAlphanum ∨ c = '+' ∨ c = '-' ∨ c = '.'

/-- A scheme is what stands in front of the first colon, in lower case. -/
theorem readScheme?_eq_some {cs scheme rest : List Char}
    (h : readScheme? cs = some (scheme, rest)) :
    ∃ written, (∀ c ∈ written, InScheme c) ∧ scheme = written.map Char.toLower
      ∧ cs = written ++ ':' :: rest := by
  unfold readScheme? at h
  split at h
  · next first more rest' cut =>
    dsimp only at h
    split at h
    · next allowed =>
      obtain ⟨rfl, rfl⟩ := Prod.mk.inj (Option.some.inj h)
      simp only [Bool.and_eq_true, List.all_eq_true, Bool.or_eq_true, beq_iff_eq] at allowed
      refine ⟨first :: more, ?_, rfl, (splitAtMark_eq_iff.1 cut).2⟩
      intro c hc
      rcases List.mem_cons.1 hc with rfl | later
      · exact .inl (by simp [Char.isAlphanum, allowed.1])
      · simpa [InScheme, or_assoc] using allowed.2 c later
    · simp at h
  · simp at h

/-! ## URLs -/

/-- What stands in front of the query. -/
def headChars (u : Url) : List Char :=
  u.scheme ++ ':' :: u.authorityChars ++ UrlPath.chars u.path

theorem chars_eq (u : Url) :
    u.chars = u.headChars ++ (behind '?' u.query ++ behind '#' u.fragment) := by
  rw [chars, headChars, List.append_assoc]

theorem toList_render (u : Url) :
    u.render.toList = u.headChars ++ (behind '?' u.query ++ behind '#' u.fragment) := by
  rw [render, String.toList_ofList, chars_eq]

/-- What reading a URL comes to. -/
theorem parse?_eq_some_iff {toAscii : DomainToAscii} {s : String} {u : Url} :
    parse? toAscii s = some u ↔ ∃ scheme rest w,
      readScheme? (splitAtMark '#' (clean s.toList)).1 = some (scheme, rest)
        ∧ readHierarchy? toAscii scheme (splitAtMark '?' rest).1 = some w
        ∧ u = { w with
          query := (splitAtMark '?' rest).2.map (escapeSet (querySet (isSpecialScheme scheme)))
          fragment := (splitAtMark '#' (clean s.toList)).2.map (escapeSet fragmentSet) } := by
  simp only [parse?, Option.bind_eq_bind, Option.bind_eq_some_iff, Option.pure_def,
    Option.some.injEq, Prod.exists]
  grind

end TorznabGateway.Url
