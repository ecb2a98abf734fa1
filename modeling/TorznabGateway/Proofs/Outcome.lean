import Mathlib.Data.List.Forall2

/-!
# Computations that succeed

When a computation that may fail succeeds, and with what: of steps one after another, of checks, and
of one step for every element of a list.

## Main statements

* `bind_eq_ok_iff`, `guard_eq_ok_iff`: a sequence succeeds if its steps do.
* `forM_eq_ok_iff`, `exists_ok_mapM_iff`: steps for the elements of a list succeed if all do.
* `mapM_eq_error`: otherwise the first that fails decides.
-/
namespace TorznabGateway

variable {ε α β : Type}

/-! ## Steps in sequence -/

theorem bind_eq_ok_iff {x : Except ε α} {f : α → Except ε β} {b : β} :
    (x >>= f) = .ok b ↔ ∃ a, x = .ok a ∧ f a = .ok b := by
  cases x <;> simp [bind, Except.bind]

theorem exists_ok_bind_iff {x : Except ε α} {f : α → Except ε β} :
    (∃ b, (x >>= f) = .ok b) ↔ ∃ a, x = .ok a ∧ ∃ b, f a = .ok b := by
  simp only [bind_eq_ok_iff, ← exists_and_left]
  exact exists_comm

/-- Checks give nothing but their success. -/
theorem bind_unit_eq_ok_iff {x : Except ε Unit} {f : Unit → Except ε β} {b : β} :
    (x >>= f) = .ok b ↔ x = .ok () ∧ f () = .ok b := by
  cases x <;> simp [bind, Except.bind]

/-- A check that must fail for the computation to go on. -/
theorem guard_eq_ok_iff {p : Prop} [Decidable p] {e : ε} {f : α → Except ε β} {x : Except ε β}
    {b : β} : (if p then .error e >>= f else x) = .ok b ↔ ¬p ∧ x = .ok b := by
  by_cases h : p <;> simp [h, bind, Except.bind]

theorem exists_ok_guard_iff {p : Prop} [Decidable p] {e : ε} {f : α → Except ε β}
    {x : Except ε β} :
    (∃ b, (if p then .error e >>= f else x) = .ok b) ↔ ¬p ∧ ∃ b, x = .ok b := by
  simp only [guard_eq_ok_iff, exists_and_left]

theorem exists_ok_map_iff {x : Except ε α} {f : α → β} :
    (∃ b, x.map f = .ok b) ↔ ∃ a, x = .ok a := by
  cases x <;> simp [Except.map]

theorem map_eq_ok_iff {x : Except ε α} {f : α → β} {b : β} :
    x.map f = .ok b ↔ ∃ a, x = .ok a ∧ f a = b := by
  cases x <;> simp [Except.map]

/-! ## Steps for the elements of a list -/

theorem forM_eq_ok_iff {f : α → Except ε Unit} {xs : List α} :
    xs.forM f = .ok () ↔ ∀ x ∈ xs, f x = .ok () := by
  induction xs with
  | nil => simp [List.forM, pure, Except.pure]
  | cons x xs ih =>
    rw [List.forall_mem_cons, ← ih]
    exact bind_unit_eq_ok_iff

theorem exists_ok_mapM_iff {f : α → Except ε β} {xs : List α} :
    (∃ ys, xs.mapM f = .ok ys) ↔ ∀ x ∈ xs, ∃ y, f x = .ok y := by
  induction xs with
  | nil => simp [pure, Except.pure]
  | cons x xs ih =>
    rw [List.mapM_cons, exists_ok_bind_iff, List.forall_mem_cons, ← ih]
    simp [exists_ok_bind_iff, pure, Except.pure]

theorem mapM_eq_ok_iff_forall₂ {f : α → Except ε β} {xs : List α} {ys : List β} :
    xs.mapM f = .ok ys ↔ List.Forall₂ (fun x y => f x = .ok y) xs ys := by
  induction xs generalizing ys with
  | nil => cases ys <;> simp [pure, Except.pure]
  | cons x xs ih =>
    rw [List.mapM_cons, List.forall₂_cons_left_iff, bind_eq_ok_iff]
    simp only [bind_eq_ok_iff, ih, pure, Except.pure, Except.ok.injEq]
    grind

theorem exists_of_mem_mapM {f : α → Except ε β} {xs : List α} {ys : List β}
    (h : xs.mapM f = .ok ys) {y : β} (hy : y ∈ ys) : ∃ x ∈ xs, f x = .ok y := by
  induction xs generalizing ys with
  | nil =>
    obtain rfl : ys = [] := by simpa [pure, Except.pure, eq_comm] using h
    cases hy
  | cons x xs ih =>
    rw [List.mapM_cons] at h
    cases first : f x with
    | error e => simp [first, bind, Except.bind] at h
    | ok z =>
      cases others : xs.mapM f with
      | error e => simp [first, others, bind, Except.bind] at h
      | ok zs =>
        obtain rfl : z :: zs = ys := by
          simpa [first, others, bind, Except.bind, pure, Except.pure] using h
        rcases List.mem_cons.1 hy with rfl | hy
        · exact ⟨x, List.mem_cons_self, first⟩
        · obtain ⟨w, hw, found⟩ := ih others hy
          exact ⟨w, List.mem_cons_of_mem x hw, found⟩

/-- Steps that all succeed give their results in order. -/
theorem mapM_eq_ok {f : α → Except ε β} {g : α → Option β} {xs : List α}
    (h : ∀ x ∈ xs, ∃ y, g x = some y ∧ f x = .ok y) : xs.mapM f = .ok (xs.filterMap g) := by
  induction xs with
  | nil => rfl
  | cons x xs ih =>
    obtain ⟨⟨y, result, first⟩, rest⟩ := List.forall_mem_cons.1 h
    rw [List.mapM_cons, first, ih rest, List.filterMap_cons_some result]
    rfl

theorem mapM_eq_some {f : α → Option β} {g : α → β} {xs : List α}
    (h : ∀ x ∈ xs, f x = some (g x)) : xs.mapM f = some (xs.map g) := by
  induction xs with
  | nil => rfl
  | cons x xs ih =>
    obtain ⟨first, rest⟩ := List.forall_mem_cons.1 h
    rw [List.mapM_cons, first, ih rest]
    rfl

theorem exists_of_mem_mapM_some {f : α → Option β} {xs : List α} {ys : List β}
    (h : xs.mapM f = some ys) {y : β} (hy : y ∈ ys) : ∃ x ∈ xs, f x = some y := by
  induction xs generalizing ys with
  | nil =>
    obtain rfl : [] = ys := by simpa using h
    cases hy
  | cons x xs ih =>
    simp only [List.mapM_cons, Option.pure_def, Option.bind_eq_bind, Option.bind_eq_some_iff,
      Option.some.injEq] at h
    obtain ⟨z, first, zs, others, rfl⟩ := h
    rcases List.mem_cons.1 hy with rfl | hy
    · exact ⟨x, List.mem_cons_self, first⟩
    · obtain ⟨w, hw, found⟩ := ih others hy
      exact ⟨w, List.mem_cons_of_mem x hw, found⟩

/-- What every step preserves is preserved by all of them. -/
theorem foldlM_some_induction {motive : β → Prop} {f : β → α → Option β} {xs : List α} {b c : β}
    (h : xs.foldlM f b = some c) (start : motive b)
    (step : ∀ x ∈ xs, ∀ {b c}, f b x = some c → motive b → motive c) : motive c := by
  induction xs generalizing b with
  | nil => exact Option.some.inj h ▸ start
  | cons x xs ih =>
    obtain ⟨first, rest⟩ := List.forall_mem_cons.1 step
    obtain ⟨d, done, h⟩ := Option.bind_eq_some_iff.1 h
    exact ih h (first done start) rest

/-- Results can be taken in as they come, or when all are there. -/
theorem foldlM_eq_mapM {γ : Type} {f : α → Except ε β} {s : γ → β → γ} (xs : List α) (out : γ) :
    xs.foldlM (fun out x => (f x).map (s out)) out = (xs.mapM f).map (·.foldl s out) := by
  induction xs generalizing out with
  | nil => rfl
  | cons x xs ih =>
    rw [List.foldlM_cons, List.mapM_cons]
    cases f x with
    | error e => rfl
    | ok y =>
      refine (ih (s out y)).trans ?_
      cases xs.mapM f <;> rfl

/-- The first step that fails decides how the whole fails. -/
theorem mapM_eq_error {f : α → Except ε β} {before after : List α} {x : α} {e : ε}
    (earlier : ∀ w ∈ before, ∃ y, f w = .ok y) (fails : f x = .error e) :
    (before ++ x :: after).mapM f = .error e := by
  induction before with
  | nil => rw [List.nil_append, List.mapM_cons, fails]; rfl
  | cons w before ih =>
    obtain ⟨⟨y, first⟩, rest⟩ := List.forall_mem_cons.1 earlier
    rw [List.cons_append, List.mapM_cons, first, ih rest]
    rfl

end TorznabGateway
