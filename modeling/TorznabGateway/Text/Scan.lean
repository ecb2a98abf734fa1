/-!
# Scanners

A scanner reads something from the front of a text and gives what follows it.
-/
namespace TorznabGateway.Text

/-- A value read from the front of a text, and the text behind it. -/
abbrev Scan (α : Type) := List Char → Option (α × List Char)

namespace Scan

/-- One given character. -/
def char (c : Char) : Scan Unit
  | [] => none
  | d :: rest => if d = c then some ((), rest) else none

/-- Given characters, one after another. -/
def chars (expected : List Char) : Scan Unit := fun cs =>
  if expected.isPrefixOf cs then some ((), cs.drop expected.length) else none

/-- One character of a kind. -/
def one (p : Char → Bool) : Scan Char
  | [] => none
  | c :: rest => if p c then some (c, rest) else none

/-- The longest run of characters of a kind, if it is not empty. -/
def run (p : Char → Bool) : Scan (List Char) := fun cs =>
  if (cs.takeWhile p).isEmpty then none else some (cs.takeWhile p, cs.dropWhile p)

/-- Exactly so many characters of a kind. -/
def exactly (n : Nat) (p : Char → Bool) : Scan (List Char) := fun cs =>
  let found := cs.take n
  if found.length = n ∧ found.all p then some (found, cs.drop n) else none

/-- What may be left out. -/
def optional {α : Type} (s : Scan α) (cs : List Char) : Option α × List Char :=
  match s cs with
  | some (a, rest) => (some a, rest)
  | none => (none, cs)

end Scan

/-! ## Where a run ends -/

section

variable {α : Type} {p : α → Bool} {xs rest : List α}

theorem takeWhile_of_head? (ends : ∀ x ∈ rest.head?, p x = false) : rest.takeWhile p = [] := by
  cases rest with
  | nil => rfl
  | cons x rest => exact List.takeWhile_cons_of_neg (by simp [ends x rfl])

theorem dropWhile_of_head? (ends : ∀ x ∈ rest.head?, p x = false) : rest.dropWhile p = rest := by
  cases rest with
  | nil => rfl
  | cons x rest => exact List.dropWhile_cons_of_neg (by simp [ends x rfl])

theorem takeWhile_append_of_head? (inside : ∀ x ∈ xs, p x) (ends : ∀ x ∈ rest.head?, p x = false) :
    (xs ++ rest).takeWhile p = xs := by
  rw [List.takeWhile_append_of_pos inside, takeWhile_of_head? ends, List.append_nil]

theorem dropWhile_append_of_head? (inside : ∀ x ∈ xs, p x) (ends : ∀ x ∈ rest.head?, p x = false) :
    (xs ++ rest).dropWhile p = rest := by
  rw [List.dropWhile_append_of_pos inside, dropWhile_of_head? ends]

end

theorem Scan.run_append {p : Char → Bool} {cs rest : List Char} (some_char : cs ≠ [])
    (inside : ∀ c ∈ cs, p c) (ends : ∀ c ∈ rest.head?, p c = false) :
    run p (cs ++ rest) = some (cs, rest) := by
  rw [run, takeWhile_append_of_head? inside ends, dropWhile_append_of_head? inside ends,
    if_neg (by simpa using some_char)]

end TorznabGateway.Text
