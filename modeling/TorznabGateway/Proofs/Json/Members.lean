import Mathlib.Data.List.Nodup
import TorznabGateway.Json.Basic
import TorznabGateway.Named

/-!
# Members of an object

A name that is repeated in an object is found where it stands last, but a value is put where it
stands first. In an object without repetitions the two are the same: what is put under a name is
found there, and everything else is found as before.

## Main definitions

* `Json.Distinct`: whether no object in a value repeats a name.

## Main statements

* `Json.lookup?_put`: what is found in an object in which a value was put under a name.
* `Json.distinct_put`: a value that is put under a name repeats none.
-/
namespace TorznabGateway

/-! ## Values under names -/

namespace Named

variable {α β : Type} {name : String} {value : α} {xs : Named α}

theorem map_fst_put (name : String) (value : α) (xs : Named α) :
    (put name value xs).map Prod.fst
      = if name ∈ xs.map Prod.fst then xs.map Prod.fst else xs.map Prod.fst ++ [name] := by
  induction xs with
  | nil => rfl
  | cons x xs ih =>
    by_cases here : x.1 = name
    · simp [put, here]
    · rw [put, if_neg here, List.map_cons, ih, List.map_cons]
      by_cases there : name ∈ xs.map Prod.fst
      · rw [if_pos there, if_pos (List.mem_cons_of_mem _ there)]
      · have nowhere : name ∉ x.1 :: xs.map Prod.fst := by
          rw [List.mem_cons, not_or]
          exact ⟨Ne.symm here, there⟩
        rw [if_neg there, if_neg nowhere, List.cons_append]

theorem nodup_put (nodup : (xs.map Prod.fst).Nodup) (name : String) (value : α) :
    ((put name value xs).map Prod.fst).Nodup := by
  rw [map_fst_put]
  split
  case isTrue => exact nodup
  case isFalse new =>
    rw [List.nodup_append_comm, List.singleton_append, List.nodup_cons]
    exact ⟨new, nodup⟩

theorem eq_or_mem_of_mem_put {x : String × α} (h : x ∈ put name value xs) :
    x = (name, value) ∨ x ∈ xs := by
  induction xs with
  | nil => exact .inl (List.mem_singleton.1 h)
  | cons y ys ih =>
    unfold put at h
    split at h
    case isTrue same =>
      obtain rfl | h := List.mem_cons.1 h
      · exact .inl (by rw [same])
      · exact .inr (List.mem_cons_of_mem _ h)
    case isFalse =>
      obtain rfl | h := List.mem_cons.1 h
      · exact .inr List.mem_cons_self
      · exact (ih h).imp_right (List.mem_cons_of_mem _)

theorem mem_of_get? (h : get? name xs = some value) : (name, value) ∈ xs := by
  obtain ⟨⟨n, v⟩, found, rfl⟩ := Option.map_eq_some_iff.1 h
  have same : n = name := by simpa using List.find?_some found
  exact same ▸ List.mem_of_find?_eq_some found

/-- Values can be changed before one is put among them, or after. -/
theorem map_put (f : α → β) (name : String) (value : α) (xs : Named α) :
    (put name value xs).map (fun x => (x.1, f x.2))
      = put name (f value) (xs.map fun x => (x.1, f x.2)) := by
  induction xs with
  | nil => rfl
  | cons x xs ih =>
    rw [put, List.map_cons, put]
    split
    · rfl
    · rw [List.map_cons, ih]

end Named

/-! ## Finding members -/

namespace Json

section

variable {τ : Type}

@[simp] theorem lookup?_nil (name : String) : lookup? name ([] : List (String × τ)) = none := rfl

@[simp] theorem lookup?_cons (name k : String) (v : τ) (ms : List (String × τ)) :
    lookup? name ((k, v) :: ms) = (lookup? name ms).or (if k = name then some v else none) := by
  rw [lookup?]
  cases lookup? name ms <;> simp

@[simp] theorem lookup?_append (name : String) (ms ns : List (String × τ)) :
    lookup? name (ms ++ ns) = (lookup? name ns).or (lookup? name ms) := by
  induction ms with
  | nil => simp
  | cons m ms ih => rw [List.cons_append, lookup?_cons, ih, lookup?_cons, Option.or_assoc]

theorem lookup?_eq_none {name : String} {ms : List (String × τ)} (h : name ∉ ms.map Prod.fst) :
    lookup? name ms = none := by
  induction ms with
  | nil => rfl
  | cons m ms ih =>
    rw [List.map_cons, List.mem_cons, not_or] at h
    rw [lookup?_cons, ih h.2, if_neg (Ne.symm h.1), Option.or_none]

theorem lookup?_map_self {name : String} {names : List String} (known : name ∈ names)
    (f : String → τ) :
    lookup? name (names.map fun n => (n, f n)) = some (f name) := by
  induction names with
  | nil => cases known
  | cons n names ih =>
    rw [List.map_cons, lookup?_cons]
    by_cases later : name ∈ names
    · rw [ih later, Option.some_or]
    · obtain rfl : name = n := (List.mem_cons.1 known).resolve_right later
      have last : name ∉ (names.map fun n => (n, f n)).map Prod.fst := by simpa using later
      rw [lookup?_eq_none last, if_pos rfl, Option.none_or]

variable {ms : List (String × τ)}

/-- Where no name is repeated, the last member of a name is the first. -/
theorem lookup?_eq_get? (nodup : (ms.map Prod.fst).Nodup) (name : String) :
    lookup? name ms = Named.get? name ms := by
  induction ms with
  | nil => rfl
  | cons m ms ih =>
    rw [List.map_cons, List.nodup_cons] at nodup
    rw [lookup?_cons, Named.get?, List.find?_cons]
    by_cases same : m.1 = name
    · have nowhere : lookup? name ms = none := lookup?_eq_none (same ▸ nodup.1)
      simp [same, nowhere]
    · have differ : (m.1 == name) = false := by simpa using same
      rw [ih nodup.2, if_neg same, differ, Option.or_none, Named.get?]

theorem lookup?_put (nodup : (ms.map Prod.fst).Nodup) (name other : String) (v : τ) :
    lookup? other (Named.put name v ms) = if other = name then some v else lookup? other ms := by
  rw [lookup?_eq_get? (Named.nodup_put nodup name v), lookup?_eq_get? nodup]
  split
  case isTrue same => rw [same, Named.get?_put_self]
  case isFalse differ => exact Named.get?_put_of_ne v ms differ

end

/-! ## Objects without repetitions -/

mutual

/-- Whether no object in a value repeats a name. -/
def Distinct : Json → Prop
  | .array items => DistinctItems items
  | .object members => (members.map Prod.fst).Nodup ∧ DistinctMembers members
  | _ => True

/-- Whether this is so for the items of an array. -/
def DistinctItems : List Json → Prop
  | [] => True
  | v :: vs => v.Distinct ∧ DistinctItems vs

/-- Whether this is so for the values of members. -/
def DistinctMembers : List (String × Json) → Prop
  | [] => True
  | (_, v) :: ms => v.Distinct ∧ DistinctMembers ms

end

theorem distinctItems_iff {items : List Json} :
    DistinctItems items ↔ ∀ v ∈ items, v.Distinct := by
  induction items with
  | nil => simp [DistinctItems]
  | cons v vs ih => rw [DistinctItems, ih, List.forall_mem_cons]

theorem distinctMembers_iff {members : List (String × Json)} :
    DistinctMembers members ↔ ∀ m ∈ members, m.2.Distinct := by
  induction members with
  | nil => simp [DistinctMembers]
  | cons m ms ih => rw [DistinctMembers, ih, List.forall_mem_cons]

theorem distinct_array_iff {items : List Json} :
    Distinct (.array items) ↔ ∀ v ∈ items, v.Distinct := by
  rw [Distinct, distinctItems_iff]

theorem distinct_object_iff {members : List (String × Json)} :
    Distinct (.object members)
      ↔ (members.map Prod.fst).Nodup ∧ ∀ m ∈ members, m.2.Distinct := by
  rw [Distinct, distinctMembers_iff]

variable {ms : List (String × Json)} {name : String} {v : Json}

theorem distinct_of_get? (distinct : Distinct (.object ms)) (h : Named.get? name ms = some v) :
    v.Distinct :=
  (distinct_object_iff.1 distinct).2 _ (Named.mem_of_get? h)

theorem distinct_put (distinct : Distinct (.object ms)) (name : String) (value : v.Distinct) :
    Distinct (.object (Named.put name v ms)) := by
  obtain ⟨nodup, members⟩ := distinct_object_iff.1 distinct
  refine distinct_object_iff.2 ⟨Named.nodup_put nodup name v, fun m hm => ?_⟩
  obtain rfl | hm := Named.eq_or_mem_of_mem_put hm
  · exact value
  · exact members m hm

end Json

end TorznabGateway
