/-!
# Values under names

A list of pairs of a name and a value. Where names are unique the list is a table that keeps the
order in which names were first put into it.
-/
namespace TorznabGateway

/-- Values under names. -/
abbrev Named (α : Type) := List (String × α)

namespace Named

/-- Put a value in place of the one under a name, or at the end. -/
def put {α : Type} (name : String) (value : α) : Named α → Named α
  | [] => [(name, value)]
  | (n, v) :: rest => if n = name then (n, value) :: rest else (n, v) :: put name value rest

/-- The first value under a name. -/
def get? {α : Type} (name : String) (xs : Named α) : Option α :=
  (xs.find? (·.1 == name)).map (·.2)

@[simp] theorem get?_put_self {α : Type} (name : String) (value : α) (xs : Named α) :
    get? name (put name value xs) = some value := by
  induction xs with
  | nil => simp [put, get?]
  | cons x xs ih =>
    by_cases h : x.1 = name
    · simp [put, get?, h]
    · simpa [put, get?, h] using ih

theorem get?_put_of_ne {α : Type} {name other : String} (value : α) (xs : Named α)
    (h : other ≠ name) : get? other (put name value xs) = get? other xs := by
  induction xs with
  | nil => simp [put, get?, h.symm]
  | cons x xs ih =>
    by_cases hx : x.1 = name
    · simp [put, get?, hx, h.symm]
    · by_cases hy : x.1 = other
      · simp [put, get?, hy, h]
      · simpa [put, get?, hx, hy] using ih

/-- A new name goes to the end. -/
theorem put_of_not_mem {α : Type} {name : String} (value : α) {xs : Named α}
    (h : name ∉ xs.map Prod.fst) : put name value xs = xs ++ [(name, value)] := by
  induction xs with
  | nil => rfl
  | cons x xs ih =>
    rw [List.map_cons, List.mem_cons, not_or] at h
    obtain ⟨differ, fresh⟩ := h
    rw [put, if_neg (Ne.symm differ), ih fresh, List.cons_append]

end Named

end TorznabGateway
