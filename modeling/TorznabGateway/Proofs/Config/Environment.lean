import TorznabGateway.Config.Environment
import TorznabGateway.Proofs.Text.Written

/-!
# What variables set

The value of a variable is never `null`, so a variable cannot take a setting away. Most texts are
their own values; the others look like a boolean, a number, a list, a table or something in quotes,
or have white space at their ends.

## Main definitions

* `Environment.IsPlain`: the texts that are surely their own values.

## Main statements

* `Environment.value_ne_null`: a variable has a value.
* `Environment.value_of_isPlain`: plain texts are their own values.
* `Environment.settings_single`: what a single variable sets.
-/
namespace TorznabGateway.Environment

open Text

/-! ## Values -/

theorem ofWord_ne_null (cs : List Char) : ofWord cs ≠ .null := by
  unfold ofWord
  split
  · exact nofun
  · split <;> exact nofun

theorem ne_null_of_readValue {depth : Nat} {cs rest : List Char} {v : Json}
    (h : readValue depth cs = some (v, rest)) : v ≠ .null := by
  cases depth with
  | zero => cases h
  | succ depth =>
    obtain ⟨⟨v, _⟩, found, same⟩ := Option.map_eq_some_iff.1 h
    obtain ⟨rfl, -⟩ := Prod.mk.inj same
    split at found
    case h_3 | h_4 | h_5 =>
      obtain ⟨_, -, same⟩ := Option.map_eq_some_iff.1 found
      obtain ⟨rfl, -⟩ := Prod.mk.inj same
      exact nofun
    case h_7 => cases found
    case h_8 =>
      obtain ⟨rfl, -⟩ := Prod.mk.inj (Option.some.inj found)
      exact ofWord_ne_null _
    all_goals
      obtain ⟨rfl, -⟩ := Prod.mk.inj (Option.some.inj found)
      exact nofun

/-- A variable has a value. -/
theorem value_ne_null (s : String) : value s ≠ .null := by
  unfold value
  split
  case h_1 read => exact ne_null_of_readValue read
  case h_2 => exact nofun

/-- Texts that are surely their own values: they have no white space at their ends, do not start as
something in quotes, a list or a table does, and are no booleans or numbers. -/
structure IsPlain (s : String) : Prop where
  trimmed : trimChars s.toList = s.toList
  start : ∀ c ∈ s.toList.head?, c ≠ '"' ∧ c ≠ '\'' ∧ c ≠ '[' ∧ c ≠ '\x7b'
  noBoolean : s ≠ "true" ∧ s ≠ "false"
  noNumber : isDecimal s.toList = false ∧ integer? s.toList = none

theorem isWhiteSpace_of_isAsciiSpace {c : Char} (h : isAsciiSpace c) : isWhiteSpace c := by
  simp only [isAsciiSpace, isBlank, Bool.or_eq_true, beq_iff_eq] at h
  rcases h with (((rfl | rfl) | rfl) | rfl) | rfl <;> decide

/-- A word of a text without white space at its end is followed by no white space alone. -/
theorem eq_nil_of_trimmed {front rest : List Char}
    (trimmed : trimChars (front ++ rest) = front ++ rest)
    (blank : rest.dropWhile isAsciiSpace = []) : rest = [] := by
  by_contra ne
  have finish := List.rdropWhile_eq_self_iff.1 (trimChars_eq_self_iff.1 trimmed).2 (by simp [ne])
  rw [List.getLast_append_of_ne_nil _ ne] at finish
  exact finish (isWhiteSpace_of_isAsciiSpace
    (List.dropWhile_eq_nil_iff.1 blank _ (List.getLast_mem ne)))

theorem eq_text_of_readValue {s : String} (h : IsPlain s) {depth : Nat} {v : Json}
    (read : readValue depth s.toList = some (v, [])) : v = .text s := by
  have start : s.toList.dropWhile isAsciiSpace = s.toList := by
    have first := List.dropWhile_eq_self_iff.1 (trimChars_eq_self_iff.1 h.trimmed).1
    exact List.dropWhile_eq_self_iff.2 fun some_char blank =>
      first some_char (isWhiteSpace_of_isAsciiSpace blank)
  cases depth with
  | zero => cases read
  | succ depth =>
    obtain ⟨⟨v, rest⟩, found, same⟩ := Option.map_eq_some_iff.1 read
    obtain ⟨rfl, blank⟩ := Prod.mk.inj same
    rw [start] at found
    have none_left {front : List Char} (whole : s.toList = front ++ rest) : s.toList = front := by
      have trimmed := h.trimmed
      rw [whole] at trimmed
      rw [whole, eq_nil_of_trimmed trimmed blank, List.append_nil]
    split at found
    case h_1 whole =>
      obtain ⟨-, rfl⟩ := Prod.mk.inj (Option.some.inj found)
      have same : s.toList = "true".toList := none_left whole
      exact absurd (String.toList_inj.1 same) h.noBoolean.1
    case h_2 whole =>
      obtain ⟨-, rfl⟩ := Prod.mk.inj (Option.some.inj found)
      have same : s.toList = "false".toList := none_left whole
      exact absurd (String.toList_inj.1 same) h.noBoolean.2
    case h_8 =>
      obtain ⟨rfl, rfl⟩ := Prod.mk.inj (Option.some.inj found)
      have word := none_left List.takeWhile_append_dropWhile.symm
      rw [← word, h.trimmed, ofWord, if_neg (by simp [h.noNumber.1]), h.noNumber.2,
        String.ofList_toList]
    all_goals
      next whole => exact absurd (h.start _ (by rw [whole]; rfl)) (by decide)

/-- Plain texts are their own values. -/
theorem value_of_isPlain {s : String} (h : IsPlain s) : value s = .text s := by
  unfold value
  split
  case h_1 read => exact eq_text_of_readValue h read
  case h_2 => rfl

/-! ## Settings -/

/-- What a variable sets, if it sets something. -/
def assignment? (x : String × String) : Option Json :=
  (path? x.1).map (nest (value x.2))

theorem settings_eq_foldl (env : List (String × String)) :
    settings env = ((env.mergeSort fun a b => a.1 ≤ b.1).filterMap assignment?).foldl overlay
      (.object []) := by
  rw [settings, List.foldl_filterMap]
  congr 1
  funext under ⟨name, s⟩
  cases sets : path? name <;> simp [assignment?, sets]

theorem filterMap_assignment? {env : List (String × String)}
    (others : ∀ x ∈ env, path? x.1 = none) : env.filterMap assignment? = [] := by
  rw [List.filterMap_eq_nil_iff]
  intro x hx
  rw [assignment?, others x hx, Option.map_none]

/-- Variables that set nothing are ignored. -/
theorem settings_none {env : List (String × String)} (others : ∀ x ∈ env, path? x.1 = none) :
    settings env = .object [] := by
  have sorted := (List.mergeSort_perm env fun a b => a.1 ≤ b.1).filterMap assignment?
  rw [filterMap_assignment? others, List.perm_nil] at sorted
  rw [settings_eq_foldl, sorted, List.foldl_nil]

/-- What a single variable sets, wherever it stands among variables that set nothing. -/
theorem settings_single {before after : List (String × String)} {name s key : String}
    {path : List String} (others : ∀ x ∈ before ++ after, path? x.1 = none)
    (sets : path? name = some (key :: path)) :
    settings (before ++ (name, s) :: after) = nest (value s) (key :: path) := by
  have first : assignment? (name, s) = some (nest (value s) (key :: path)) := by
    rw [assignment?, sets, Option.map_some]
  rw [List.forall_mem_append] at others
  have sorted := (List.mergeSort_perm (before ++ (name, s) :: after) fun a b => a.1 ≤ b.1).filterMap
    assignment?
  rw [List.filterMap_append, filterMap_assignment? others.1, List.filterMap_cons_some first,
    filterMap_assignment? others.2, List.nil_append, List.perm_singleton] at sorted
  rw [settings_eq_foldl, sorted]
  rfl

end TorznabGateway.Environment
