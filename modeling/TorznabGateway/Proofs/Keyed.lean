import Mathlib.Data.List.Nodup

/-!
# Lists whose elements have keys

What is found under a key in a list: in one that was collected by leaving out elements with the key
of an earlier one, and in one that stands in strictly ascending order, which is determined by it.

## Main definitions

* `pushNew`: put an element at the end of a list, unless its key is there.

## Main statements

* `find?_key_eq_some_iff`: what is in a list without repeated keys is found under its key.
* `find?_key_of_perm`: in whichever order it stands there.
* `foldl_pushNew_eq`: what is collected is the first element of each key that is not there yet.
* `find?_foldl_pushNew`: the first element with a key is the one that is kept.
* `eq_of_find?_eq`: a list in strictly ascending order is known by what is found in it.
-/
namespace TorznabGateway

variable {α κ : Type} {key : α → κ} {xs ys : List α} {x : α}

/-- What is looked for in a list is found, if a key tells the elements apart and all that match have
the key of one that does. -/
theorem find?_eq_some_of_nodup (nodup : (xs.map key).Nodup) (hx : x ∈ xs) {p : α → Bool}
    (matched : p x) (same : ∀ y, p y → key y = key x) : xs.find? p = some x := by
  cases found : xs.find? p with
  | none => exact absurd matched (List.find?_eq_none.1 found x hx)
  | some y =>
    have one_key := same y (List.find?_some found)
    rw [List.inj_on_of_nodup_map nodup (List.mem_of_find?_eq_some found) hx one_key]

section

variable [BEq κ] [LawfulBEq κ] {k : κ}

/-- What is in a list without repeated keys is found under its key. -/
theorem find?_key_eq_some_iff (nodup : (xs.map key).Nodup) :
    xs.find? (key · == k) = some x ↔ x ∈ xs ∧ key x = k := by
  constructor
  · intro found
    exact ⟨List.mem_of_find?_eq_some found, by simpa using List.find?_some found⟩
  · rintro ⟨hx, rfl⟩
    exact find?_eq_some_of_nodup nodup hx (by simp) fun y same => by simpa using same

/-- Where no key is repeated the order does not matter to what is found. -/
theorem find?_key_of_perm (nodup : (xs.map key).Nodup) (order : xs.Perm ys) (k : κ) :
    xs.find? (key · == k) = ys.find? (key · == k) := by
  ext x
  rw [find?_key_eq_some_iff nodup, find?_key_eq_some_iff ((order.map key).nodup nodup),
    order.mem_iff]

theorem find?_key_eq_none_iff : xs.find? (key · == k) = none ↔ ∀ x ∈ xs, key x ≠ k := by
  simp

theorem isSome_find?_key_iff : (xs.find? (key · == k)).isSome ↔ ∃ x ∈ xs, key x = k := by
  simp

/-- At most one element has a key that is not repeated. -/
theorem filter_key_eq_toList_find? (nodup : (xs.map key).Nodup) (k : κ) :
    xs.filter (key · == k) = (xs.find? (key · == k)).toList := by
  induction xs with
  | nil => rfl
  | cons x xs ih =>
    obtain ⟨other, nodup⟩ := List.nodup_cons.1 nodup
    rw [List.filter_cons, List.find?_cons]
    by_cases same : key x = k
    case pos =>
      have rest : xs.filter (key · == k) = [] := by
        rw [List.filter_eq_nil_iff]
        intro y hy
        have : key y ≠ k := fun again => other (List.mem_map.2 ⟨y, hy, again.trans same.symm⟩)
        simpa using this
      simp [same, rest]
    case neg =>
      have other : (key x == k) = false := by simpa using same
      simp [other, ih nodup]

end

/-! ## Collecting the first of each key -/

section

variable [BEq κ]

/-- Put an element at the end, unless its key is there. -/
def pushNew (key : α → κ) (out : List α) (x : α) : List α :=
  if out.any (key · == key x) then out else out ++ [x]

variable [LawfulBEq κ]

/-- What is collected is the first element of each key that is not there yet. -/
theorem foldl_pushNew_eq (key : α → κ) (xs out : List α) :
    xs.foldl (pushNew key) out
      = out ++ (xs.filter fun x => !out.any (key · == key x)).eraseDupsBy
          fun x y => key x == key y := by
  induction xs generalizing out with
  | nil => simp
  | cons x xs ih =>
    rw [List.foldl_cons, ih, List.filter_cons, pushNew]
    by_cases known : out.any (key · == key x)
    · simp [known]
    · simp only [known, Bool.false_eq_true, if_false, Bool.not_false, if_true,
        List.eraseDupsBy_cons, List.append_assoc, List.singleton_append, List.filter_filter]
      congr 3
      apply List.filter_congr
      intro y _
      simp only [List.any_append, List.any_cons, List.any_nil, Bool.or_false, Bool.not_or]
      grind

theorem eraseDupsBy_key_eq_foldl (key : α → κ) (xs : List α) :
    xs.eraseDupsBy (fun x y => key x == key y) = xs.foldl (pushNew key) [] := by
  simp [foldl_pushNew_eq]

theorem find?_pushNew (out : List α) (x : α) (k : κ) :
    (pushNew key out x).find? (key · == k)
      = (out.find? (key · == k)).or ([x].find? (key · == k)) := by
  unfold pushNew
  split
  · next known =>
    by_cases same : key x = k
    · obtain ⟨y, hy, again⟩ := List.any_eq_true.1 known
      have found : (out.find? (key · == k)).isSome := by
        rw [List.find?_isSome]
        exact ⟨y, hy, by rwa [← same]⟩
      rw [Option.or_of_isSome found]
    · simp [same]
  · exact List.find?_append

/-- The first element with a key is the one that is kept. -/
theorem find?_foldl_pushNew (xs out : List α) (k : κ) :
    (xs.foldl (pushNew key) out).find? (key · == k)
      = (out.find? (key · == k)).or (xs.find? (key · == k)) := by
  induction xs generalizing out with
  | nil => simp
  | cons x xs ih => rw [List.foldl_cons, ih, find?_pushNew, Option.or_assoc, ← List.find?_append,
      List.singleton_append]

theorem nodup_pushNew {out : List α} (nodup : (out.map key).Nodup) (x : α) :
    ((pushNew key out x).map key).Nodup := by
  unfold pushNew
  split
  · exact nodup
  · next new =>
    rw [List.map_append, List.map_singleton, List.nodup_append_comm, List.singleton_append,
      List.nodup_cons]
    refine ⟨fun known => new ?_, nodup⟩
    obtain ⟨y, hy, same⟩ := List.mem_map.1 known
    exact List.any_eq_true.2 ⟨y, hy, by simpa using same⟩

theorem nodup_foldl_pushNew {out : List α} (nodup : (out.map key).Nodup) (xs : List α) :
    ((xs.foldl (pushNew key) out).map key).Nodup := by
  induction xs generalizing out with
  | nil => exact nodup
  | cons x xs ih => exact ih (nodup_pushNew nodup x)

theorem find?_eraseDupsBy_key (xs : List α) (k : κ) :
    (xs.eraseDupsBy fun x y => key x == key y).find? (key · == k) = xs.find? (key · == k) := by
  rw [eraseDupsBy_key_eq_foldl, find?_foldl_pushNew, List.find?_nil, Option.none_or]

theorem nodup_eraseDupsBy_key (key : α → κ) (xs : List α) :
    ((xs.eraseDupsBy fun x y => key x == key y).map key).Nodup := by
  have none_kept : (([] : List α).map key).Nodup := List.nodup_nil
  rw [eraseDupsBy_key_eq_foldl]
  exact nodup_foldl_pushNew none_kept xs

theorem mem_of_mem_eraseDupsBy_key (hx : x ∈ xs.eraseDupsBy fun x y => key x == key y) :
    x ∈ xs := by
  have found := (find?_key_eq_some_iff (nodup_eraseDupsBy_key key xs)).2 ⟨hx, rfl⟩
  rw [find?_eraseDupsBy_key] at found
  exact List.mem_of_find?_eq_some found

theorem exists_key_mem_eraseDupsBy (hx : x ∈ xs) :
    ∃ y ∈ xs.eraseDupsBy fun x y => key x == key y, key y = key x := by
  have found : (xs.find? (key · == key x)).isSome := List.find?_isSome.2 ⟨x, hx, by simp⟩
  rw [← find?_eraseDupsBy_key, List.find?_isSome] at found
  simpa using found

/-- Nothing is left out where no key is repeated. -/
theorem eraseDupsBy_key_of_nodup (key : α → κ) (nodup : (xs.map key).Nodup) :
    xs.eraseDupsBy (fun x y => key x == key y) = xs := by
  induction xs with
  | nil => rfl
  | cons x xs ih =>
    obtain ⟨other, nodup⟩ := List.nodup_cons.1 nodup
    have kept : xs.filter (fun y => (key y == key x) = false) = xs := by
      rw [List.filter_eq_self]
      intro y hy
      have : key y ≠ key x := fun same => other (List.mem_map.2 ⟨y, hy, same⟩)
      simpa using this
    rw [List.eraseDupsBy_cons, kept, ih nodup]

end

/-! ## Ascending keys -/

theorem nodup_key_of_pairwise (key : α → κ) (rank : κ → Nat)
    (ascending : xs.Pairwise fun x y => rank (key x) < rank (key y)) : (xs.map key).Nodup := by
  rw [List.Nodup, List.pairwise_map]
  exact ascending.imp fun less same => absurd less (by rw [same]; exact Nat.lt_irrefl _)

/-- A list in strictly ascending order is known by what is found in it. -/
theorem eq_of_find?_eq [BEq κ] [LawfulBEq κ] (key : α → κ) (rank : κ → Nat)
    (hx : xs.Pairwise fun x y => rank (key x) < rank (key y))
    (hy : ys.Pairwise fun x y => rank (key x) < rank (key y))
    (same : ∀ k, xs.find? (key · == k) = ys.find? (key · == k)) : xs = ys := by
  have keys_x := nodup_key_of_pairwise key rank hx
  have keys_y := nodup_key_of_pairwise key rank hy
  have members (x : α) : x ∈ xs ↔ x ∈ ys := by
    rw [← and_iff_left (a := x ∈ xs) (rfl : key x = key x), ← find?_key_eq_some_iff keys_x,
      same, find?_key_eq_some_iff keys_y, and_iff_left rfl]
  refine List.Perm.eq_of_pairwise ?_ hx hy
    ((List.perm_ext_iff_of_nodup keys_x.of_map keys_y.of_map).2 members)
  intro x y _ _ less greater
  exact absurd less (Nat.lt_asymm greater)

/-- Sorting a list without repeated keys puts it in strictly ascending order. -/
theorem pairwise_mergeSort_key {key : α → κ} {rank : κ → Nat} (injective : rank.Injective)
    (nodup : (xs.map key).Nodup) :
    (xs.mergeSort fun x y => rank (key x) ≤ rank (key y)).Pairwise
      fun x y => rank (key x) < rank (key y) := by
  have sorted : (xs.mergeSort fun x y => rank (key x) ≤ rank (key y)).Pairwise
      fun x y => decide (rank (key x) ≤ rank (key y)) = true :=
    List.pairwise_mergeSort (by simp; omega) (by simp; omega) xs
  have apart : ((xs.mergeSort fun x y => rank (key x) ≤ rank (key y)).map key).Nodup :=
    ((List.mergeSort_perm xs _).map key).nodup_iff.2 nodup
  rw [List.Nodup, List.pairwise_map] at apart
  refine (sorted.and apart).imp fun ⟨le, ne⟩ => ?_
  exact Nat.lt_of_le_of_ne (of_decide_eq_true le) fun same => ne (injective same)

/-- Sorting does not change what is found under a key that is not repeated. -/
theorem find?_mergeSort_key [BEq κ] [LawfulBEq κ] (nodup : (xs.map key).Nodup) (le : α → α → Bool)
    (k : κ) : (xs.mergeSort le).find? (key · == k) = xs.find? (key · == k) :=
  (find?_key_of_perm nodup (List.mergeSort_perm xs le).symm k).symm

end TorznabGateway
