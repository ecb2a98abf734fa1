import TorznabGateway.Text.WhiteSpace

/-!
# Splitting and joining

Lists cut at a separator and put together again, and the comma-separated lists that callers write.
-/
namespace TorznabGateway.Text

/-- Split at every occurrence of a separator; there is one piece more than separators. -/
def splitOn {α : Type} [BEq α] (separator : α) : List α → List (List α)
  | [] => [[]]
  | x :: xs =>
    if x == separator then [] :: splitOn separator xs
    else match splitOn separator xs with
      | [] => [[x]]
      | piece :: pieces => (x :: piece) :: pieces

/-- Split at the first occurrence of a separator, which is dropped; without one the second part is
empty. -/
def splitFirst {α : Type} [BEq α] (separator : α) : List α → List α × List α
  | [] => ([], [])
  | x :: xs =>
    if x == separator then ([], xs)
    else
      let (before, after) := splitFirst separator xs
      (x :: before, after)

/-- Join lists with a separator between them. -/
def joinWith {α : Type} (separator : List α) : List (List α) → List α
  | [] => []
  | [x] => x
  | x :: y :: rest => x ++ separator ++ joinWith separator (y :: rest)

/-- Join texts with a separator between them. -/
def joinTexts (separator : String) (xs : List String) : String :=
  .ofList (joinWith separator.toList (xs.map String.toList))

/-- The non-blank pieces between commas, trimmed. -/
def commaParts (s : String) : List String :=
  ((splitOn ',' s.toList).map trimChars).filterMap fun part =>
    if part.isEmpty then none else some (.ofList part)

/-! ## Pieces and their joined list -/

section

variable {α : Type} [BEq α]

theorem splitOn_ne_nil (separator : α) (xs : List α) : splitOn separator xs ≠ [] := by
  cases xs with
  | nil => simp [splitOn]
  | cons x xs =>
    rw [splitOn]
    repeat' split
    all_goals simp

variable [LawfulBEq α] {separator : α}

theorem splitOn_of_not_mem {xs : List α} (h : separator ∉ xs) : splitOn separator xs = [xs] := by
  induction xs with
  | nil => rfl
  | cons x xs ih =>
    rw [List.mem_cons, not_or] at h
    simp [splitOn, ih h.2, Ne.symm h.1]

/-- A separator splits what stands before and behind it apart. -/
theorem splitOn_append_separator (xs ys : List α) :
    splitOn separator (xs ++ separator :: ys) = splitOn separator xs ++ splitOn separator ys := by
  induction xs with
  | nil => simp [splitOn]
  | cons x xs ih =>
    rw [List.cons_append, splitOn, splitOn, ih]
    split
    · rfl
    · match h : splitOn separator xs with
      | [] => exact absurd h (splitOn_ne_nil separator xs)
      | piece :: pieces => rfl

theorem splitOn_append_cons {xs : List α} (ys : List α) (h : separator ∉ xs) :
    splitOn separator (xs ++ separator :: ys) = xs :: splitOn separator ys := by
  rw [splitOn_append_separator, splitOn_of_not_mem h, List.singleton_append]

/-- A piece has characters of the list, but not the separator. -/
theorem mem_of_mem_splitOn {xs piece : List α} (h : piece ∈ splitOn separator xs) :
    piece ⊆ xs ∧ separator ∉ piece := by
  induction xs generalizing piece with
  | nil => simp_all [splitOn]
  | cons x xs ih =>
    rw [splitOn] at h
    split at h
    · rcases List.mem_cons.1 h with rfl | later
      · simp
      · exact ⟨List.subset_cons_of_subset x (ih later).1, (ih later).2⟩
    · next other =>
      split at h
      · next none => exact absurd none (splitOn_ne_nil separator xs)
      · next first pieces pieces_eq =>
        rcases List.mem_cons.1 h with rfl | later
        · have first_piece := @ih first (pieces_eq ▸ List.mem_cons_self)
          refine ⟨List.cons_subset_cons x first_piece.1, ?_⟩
          rw [List.mem_cons, not_or]
          exact ⟨fun same => other (beq_iff_eq.2 same.symm), first_piece.2⟩
        · have later_piece := ih (pieces_eq ▸ List.mem_cons_of_mem first later)
          exact ⟨List.subset_cons_of_subset x later_piece.1, later_piece.2⟩

theorem splitFirst_of_not_mem {xs : List α} (h : separator ∉ xs) :
    splitFirst separator xs = (xs, []) := by
  induction xs with
  | nil => rfl
  | cons x xs ih =>
    rw [List.mem_cons, not_or] at h
    simp [splitFirst, ih h.2, Ne.symm h.1]

theorem splitFirst_append_cons {xs : List α} (ys : List α) (h : separator ∉ xs) :
    splitFirst separator (xs ++ separator :: ys) = (xs, ys) := by
  induction xs with
  | nil => simp [splitFirst]
  | cons x xs ih =>
    rw [List.mem_cons, not_or] at h
    simp [splitFirst, ih h.2, Ne.symm h.1]

omit [BEq α] [LawfulBEq α] in
theorem joinWith_append (separator : List α) {xs ys : List (List α)} (hx : xs ≠ [])
    (hy : ys ≠ []) : joinWith separator (xs ++ ys)
      = joinWith separator xs ++ separator ++ joinWith separator ys := by
  induction xs with
  | nil => exact absurd rfl hx
  | cons x xs ih =>
    cases xs with
    | nil =>
      obtain ⟨y, rest, rfl⟩ := List.exists_cons_of_ne_nil hy
      rfl
    | cons z xs =>
      have rest := ih (List.cons_ne_nil z xs)
      rw [List.cons_append] at rest
      simp [joinWith, rest]

/-- Joining the pieces with the separator gives the list back. -/
theorem joinWith_splitOn (xs : List α) : joinWith [separator] (splitOn separator xs) = xs := by
  induction xs with
  | nil => rfl
  | cons x xs ih =>
    rw [splitOn]
    split
    · next h =>
      obtain rfl := eq_of_beq h
      match hs : splitOn x xs with
      | [] => exact absurd hs (splitOn_ne_nil x xs)
      | y :: rest => rw [joinWith, ← hs, ih]; rfl
    · split
      · next hs => exact absurd hs (splitOn_ne_nil separator xs)
      · next piece pieces hs =>
        rw [hs] at ih
        cases pieces with
        | nil => simpa [joinWith] using ih
        | cons y rest => simpa [joinWith] using ih

/-- Pieces without the separator are got back from their joined list. -/
theorem splitOn_joinWith {xs : List (List α)} (hne : xs ≠ []) (h : ∀ x ∈ xs, separator ∉ x) :
    splitOn separator (joinWith [separator] xs) = xs := by
  induction xs with
  | nil => exact absurd rfl hne
  | cons x xs ih =>
    cases xs with
    | nil => exact splitOn_of_not_mem (h x (List.mem_singleton_self x))
    | cons y rest =>
      rw [joinWith, List.append_assoc, List.singleton_append,
        splitOn_append_cons _ (h x List.mem_cons_self), ih (List.cons_ne_nil y rest)
          fun z hz => h z (List.mem_cons_of_mem x hz)]

/-- A text without commas is one part, unless it is blank. -/
theorem commaParts_of_not_mem {s : String} (h : ',' ∉ s.toList) :
    commaParts s = (nonBlank? s).toList := by
  rw [commaParts, splitOn_of_not_mem h, nonBlank?]
  by_cases blank : trimChars s.toList = [] <;> simp [trim, blank]

/-! ## Pieces with separators inside -/

/-- The separator behind a list is found by the number of those inside. -/
theorem append_separator_inj {xs ys us vs : List α} (same : xs.count separator = ys.count separator)
    (h : xs ++ separator :: us = ys ++ separator :: vs) : xs = ys ∧ us = vs := by
  induction xs generalizing ys with
  | nil =>
    cases ys with
    | nil => exact ⟨rfl, (List.cons.inj h).2⟩
    | cons y ys =>
      obtain ⟨rfl, -⟩ := List.cons.inj h
      simp at same
  | cons x xs ih =>
    cases ys with
    | nil =>
      obtain ⟨rfl, -⟩ := List.cons.inj h
      simp at same
    | cons y ys =>
      obtain ⟨rfl, rest⟩ := List.cons.inj h
      obtain ⟨rfl, rfl⟩ := ih (by simpa [List.count_cons] using same) rest
      exact ⟨rfl, rfl⟩

/-- Pieces that hold the separator are got back from their joined list, if it is known how often
each holds it. -/
theorem joinWith_inj {xs ys : List (List α)}
    (same : xs.map (·.count separator) = ys.map (·.count separator))
    (h : joinWith [separator] xs = joinWith [separator] ys) : xs = ys := by
  induction xs generalizing ys with
  | nil =>
    cases ys with
    | nil => rfl
    | cons y ys => simp at same
  | cons x xs ih =>
    cases ys with
    | nil => simp at same
    | cons y ys =>
      obtain ⟨first, rest⟩ := List.cons.inj same
      cases xs with
      | nil =>
        obtain rfl : ys = [] := by simpa using rest.symm
        rw [show x = y from h]
      | cons x' xs =>
        cases ys with
        | nil => simp at rest
        | cons y' ys =>
          simp only [joinWith, List.append_assoc, List.singleton_append] at h
          obtain ⟨rfl, tail⟩ := append_separator_inj first h
          rw [ih rest tail]

/-- Joining adds a separator between every two pieces. -/
theorem count_joinWith (separator : α) {xs : List (List α)} (ne : xs ≠ []) :
    (joinWith [separator] xs).count separator + 1
      = xs.flatten.count separator + xs.length := by
  induction xs with
  | nil => exact absurd rfl ne
  | cons x xs ih =>
    cases xs with
    | nil => simp [joinWith]
    | cons y ys =>
      have rest := ih (List.cons_ne_nil y ys)
      simp only [joinWith, List.count_append, List.count_singleton_self, List.flatten_cons,
        List.length_cons] at rest ⊢
      omega

omit [BEq α] [LawfulBEq α] in
theorem mem_joinWith {c : α} {separator : List α} {xs : List (List α)}
    (h : c ∈ joinWith separator xs) : c ∈ separator ∨ ∃ x ∈ xs, c ∈ x := by
  induction xs with
  | nil => simp [joinWith] at h
  | cons x xs ih =>
    cases xs with
    | nil => exact .inr ⟨x, by simp, h⟩
    | cons y ys =>
      simp only [joinWith, List.append_assoc, List.mem_append] at h
      grind

end

end TorznabGateway.Text
