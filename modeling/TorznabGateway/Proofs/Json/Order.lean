import Mathlib.Algebra.BigOperators.Group.List.Basic
import Mathlib.Algebra.Ring.Nat
import TorznabGateway.Proofs.Json.RoundTrip

/-!
# The order of members

An object is the same in whichever order its members are written. Such orders make a difference to
the bytes of a document, but not to how many there are.

## Main definitions

* `Json.SameUpToOrder`: two values that differ in the order of members only.

## Main statements

* `Json.SameUpToOrder.length_encode`: they are written with the same number of bytes.
-/
namespace TorznabGateway.Json

open Text Quoted

/-- Two values that differ in the order of the members of their objects only. -/
inductive SameUpToOrder : Json → Json → Prop
  | refl (v : Json) : SameUpToOrder v v
  | order {members members' : List (String × Json)} (h : members.Perm members') :
      SameUpToOrder (.object members) (.object members')
  | member (before : List (String × Json)) (k : String) {v v' : Json} (h : SameUpToOrder v v')
      (after : List (String × Json)) :
      SameUpToOrder (.object (before ++ (k, v) :: after)) (.object (before ++ (k, v') :: after))
  | item (before : List Json) {v v' : Json} (h : SameUpToOrder v v') (after : List Json) :
      SameUpToOrder (.array (before ++ v :: after)) (.array (before ++ v' :: after))
  | trans {u v w : Json} (h : SameUpToOrder u v) (h' : SameUpToOrder v w) : SameUpToOrder u w

/-! ## How long a document is -/

/-- The number of bytes that a value is written with. -/
def size (v : Json) : Nat :=
  (Utf8.encodeChars (chars v)).length

/-- The number of bytes that a member is written with. -/
def memberSize (m : String × Json) : Nat :=
  (spell m.1).length + m.2.size + 3

theorem length_items (items : List Json) :
    (Utf8.encodeChars (itemsChars items)).length
      = (items.map size).sum + (items.length - 1) := by
  induction items with
  | nil => rfl
  | cons v vs ih =>
    cases vs with
    | nil => rfl
    | cons w vs =>
      rw [bytes_items, List.length_append, List.length_cons, ih]
      simp only [List.map_cons, List.sum_cons, List.length_cons, size]
      omega

theorem length_member (k : String) (v : Json) :
    (Utf8.encodeChars (membersChars [(k, v)])).length = memberSize (k, v) := by
  rw [bytes_member]
  simp only [List.length_cons, List.length_append, memberSize, size]
  omega

theorem length_members (members : List (String × Json)) :
    (Utf8.encodeChars (membersChars members)).length
      = (members.map memberSize).sum + (members.length - 1) := by
  induction members with
  | nil => rfl
  | cons m ms ih =>
    obtain ⟨k, v⟩ := m
    cases ms with
    | nil => simpa using length_member k v
    | cons m ms =>
      rw [bytes_members, List.length_append, List.length_cons, length_member, ih]
      simp only [List.map_cons, List.sum_cons, List.length_cons]
      omega

theorem size_array (items : List Json) :
    size (.array items) = (items.map size).sum + (items.length - 1) + 2 := by
  rw [size, bytes_array, List.length_cons, List.length_append, length_items]
  rfl

theorem size_object (members : List (String × Json)) :
    size (.object members) = (members.map memberSize).sum + (members.length - 1) + 2 := by
  rw [size, bytes_object, List.length_cons, List.length_append, length_members]
  rfl

theorem SameUpToOrder.size_eq {v v' : Json} (h : v.SameUpToOrder v') : v.size = v'.size := by
  induction h with
  | refl v => rfl
  | order h => rw [size_object, size_object, (h.map memberSize).sum_eq, h.length_eq]
  | member before k _ after ih =>
    rw [size_object, size_object]
    simp only [List.map_append, List.map_cons, memberSize, ih, List.length_append,
      List.length_cons]
  | item before _ after ih =>
    rw [size_array, size_array]
    simp only [List.map_append, List.map_cons, ih, List.length_append, List.length_cons]
  | trans _ _ ih ih' => exact ih.trans ih'

theorem SameUpToOrder.length_encode {v v' : Json} (h : v.SameUpToOrder v') :
    (Utf8.encode v.render).length = (Utf8.encode v'.render).length := by
  rw [render, render, Utf8.encode, Utf8.encode, String.toList_ofList, String.toList_ofList]
  exact h.size_eq

end TorznabGateway.Json
