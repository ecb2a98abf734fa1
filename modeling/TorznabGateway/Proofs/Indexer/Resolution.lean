import TorznabGateway.Indexer.Scripted
import TorznabGateway.Proofs.Indexer.Registry
import TorznabGateway.Proofs.Text.Written

/-!
# What a selector selects

A selector asks for look-ups: one for `all` or for the name of an indexer, and one for each target
of an alias. The first that finds nothing is reported. Otherwise the indexers that were found are
selected in the order of the look-ups, of those with one name the first.

## Main definitions

* `Registry.assemble`: the registry of some indexers and definitions of aliases.
* `Registry.lookups`: what is looked up for a part of a selector, and what is found.
* `Registry.selection`: what the look-ups for a selector come to.
* `Registry.selectPart`: what is selected when one more part has been read.

## Main statements

* `Registry.resolve_eq_foldlM`: selectors can be resolved in one pass, part by part.
* `Registry.resolve_eq_selection`: what a selector selects, for every registry.
-/
namespace TorznabGateway.Registry

open Text

variable {indexers : List Indexer} {definitions : List (String × List String)}

/-! ## One pass -/

/-- What is selected when one more part has been read. -/
def selectPart (r : Registry) (out : List Indexer) (part : String) :
    Except ResolveError (List Indexer) :=
  if eqIgnoreAsciiCase part "all" then .ok (r.indexers.foldl (pushNew Indexer.name) out)
  else match r.find? part with
    | some i => .ok (pushNew Indexer.name out i)
    | none =>
      match r.targets? part with
      | some targets =>
        targets.foldlM (fun out t => (r.findTarget t).map (pushNew Indexer.name out)) out
      | none => .error (.unknownIndex part)

theorem selectPart_eq (r : Registry) (out : List Indexer) (part : String) :
    r.selectPart out part = (r.expand part).map (·.foldl (pushNew Indexer.name) out) := by
  unfold selectPart expand
  split
  · rfl
  · cases r.find? part with
    | some i => rfl
    | none =>
      cases r.targets? part with
      | some targets => exact foldlM_eq_mapM targets out
      | none => rfl

/-- Selectors can be resolved in one pass: part by part, and each part indexer by indexer, with what
is selected so far. -/
theorem resolve_eq_foldlM (r : Registry) (selector : String) :
    r.resolve selector = (commaParts selector).foldlM r.selectPart [] >>= fun out =>
      if out.isEmpty then .error .empty else .ok out := by
  have one_pass := foldlM_eq_mapM (f := r.expand)
    (s := fun out (group : List Indexer) => group.foldl (pushNew Indexer.name) out)
    (commaParts selector) []
  have step : r.selectPart = fun out part =>
      (r.expand part).map fun group => group.foldl (pushNew Indexer.name) out :=
    funext fun out => funext (r.selectPart_eq out)
  rw [step, one_pass, resolve]
  cases (commaParts selector).mapM r.expand with
  | error e => rfl
  | ok groups =>
    simp only [bind, Except.bind, Except.map, ← List.foldl_flatten]
    rfl

/-! ## Putting a registry together -/

/-- The registry of some indexers, after aliases were defined one after another. -/
def assemble (indexers : List Indexer) (definitions : List (String × List String)) : Registry :=
  definitions.foldl (fun r d => r.addAlias d.1 d.2) (indexers.foldl addIndexer {})

theorem assemble_eq (indexers : List Indexer) (definitions : List (String × List String)) :
    assemble indexers definitions
      = { indexers, aliases := (definitions.map fun d => (lowercase d.1, d.2)).reverse } := by
  rw [assemble, foldl_addIndexer, foldl_addAlias]
  simp

theorem targets?_assemble (name : String) :
    (assemble indexers definitions).targets? name
      = (definitions.reverse.find? fun d => lowercase d.1 == lowercase name).map (·.2) := by
  rw [targets?, assemble_eq, ← List.map_reverse, List.find?_map, Option.map_map]
  rfl

/-! ## Look-ups -/

/-- A name that is looked up, and the indexers it stands for, unless nothing has it. -/
structure Lookup where
  name : String
  found : Option (List Indexer)

/-- The first indexer with a name, letter case in ASCII aside. -/
def first? (indexers : List Indexer) (name : String) : Option Indexer :=
  indexers.find? fun i => eqIgnoreAsciiCase i.name name

/-- What is looked up for a part of a selector: all indexers, or one by its name, or else the
targets of the alias that was last defined under this name, letter case aside. -/
def lookups (indexers : List Indexer) (definitions : List (String × List String)) (part : String) :
    List Lookup :=
  if eqIgnoreAsciiCase part "all" then [⟨part, some indexers⟩]
  else match first? indexers part with
    | some i => [⟨part, some [i]⟩]
    | none =>
      match definitions.reverse.find? fun d => lowercase d.1 == lowercase part with
      | some d => d.2.map fun t => ⟨t, (first? indexers t).map fun i => [i]⟩
      | none => [⟨part, none⟩]

/-- What look-ups find together; the first that finds nothing is an error. -/
def settle (looked : List Lookup) : Except ResolveError (List Indexer) :=
  match looked.find? (·.found.isNone) with
  | some missing => .error (.unknownIndex missing.name)
  | none => .ok (looked.flatMap (·.found.getD []))

theorem settle_append (before after : List Lookup) :
    settle (before ++ after) = do
      let found ← settle before
      let more ← settle after
      return found ++ more := by
  unfold settle
  rw [List.find?_append]
  cases before.find? (·.found.isNone) with
  | some missing => rfl
  | none =>
    rw [Option.none_or]
    cases after.find? (·.found.isNone) with
    | some missing => rfl
    | none => rw [List.flatMap_append]; rfl

/-- Steps that are look-ups each come to what the look-ups come to. -/
theorem mapM_eq_settle {α : Type} {f : α → Except ResolveError (List Indexer)}
    {looked : α → List Lookup} (step : ∀ x, f x = settle (looked x)) (xs : List α) :
    (xs.mapM f).map List.flatten = settle (xs.flatMap looked) := by
  induction xs with
  | nil => rfl
  | cons x xs ih =>
    rw [List.mapM_cons, List.flatMap_cons, settle_append, ← ih, step]
    cases settle (looked x) with
    | error e => rfl
    | ok found => cases xs.mapM f <;> rfl

theorem findTarget_assemble (name : String) :
    (assemble indexers definitions).findTarget name
      = match first? indexers name with
        | some i => .ok i
        | none => .error (.unknownIndex name) := by
  rw [findTarget, find?, assemble_eq]
  rfl

theorem mapM_findTarget_assemble (targets : List String) :
    targets.mapM (assemble indexers definitions).findTarget
      = settle (targets.map fun t => ⟨t, (first? indexers t).map fun i => [i]⟩) := by
  induction targets with
  | nil => rfl
  | cons t targets ih =>
    rw [List.mapM_cons, List.map_cons, ← List.singleton_append, settle_append, ← ih,
      findTarget_assemble]
    cases first? indexers t with
    | none => rfl
    | some i => cases targets.mapM (assemble indexers definitions).findTarget <;> rfl

theorem expand_assemble (part : String) :
    (assemble indexers definitions).expand part = settle (lookups indexers definitions part) := by
  have indexers_assemble : (assemble indexers definitions).indexers = indexers := by
    rw [assemble_eq]
  unfold expand lookups
  rw [targets?_assemble, find?, indexers_assemble, ← first?]
  split
  · simp [settle]
  · cases first? indexers part with
    | some i => simp [settle]
    | none =>
      cases definitions.reverse.find? fun d => lowercase d.1 == lowercase part with
      | some d => exact mapM_findTarget_assemble d.2
      | none => simp [settle]

/-! ## Selections -/

/-- What the look-ups for a selector come to: the indexers that were found, of those with one name
the first, if there is any. -/
def selection (indexers : List Indexer) (definitions : List (String × List String))
    (selector : String) : Except ResolveError (List Indexer) :=
  match settle ((commaItems selector).flatMap (lookups indexers definitions)) with
  | .error e => .error e
  | .ok found =>
    match found.eraseDupsBy fun i j => i.name == j.name with
    | [] => .error .empty
    | selected => .ok selected

theorem resolve_assemble (selector : String) :
    (assemble indexers definitions).resolve selector
      = selection indexers definitions selector := by
  rw [selection, ← mapM_eq_settle expand_assemble, resolve, commaParts_eq_commaItems]
  cases (commaItems selector).mapM (assemble indexers definitions).expand with
  | error e => rfl
  | ok groups =>
    simp only [bind, Except.bind, Except.map, distinct_eq_eraseDupsBy]
    split <;> grind

theorem settle_eq_ok_iff {looked : List Lookup} {found : List Indexer} :
    settle looked = .ok found
      ↔ (∀ l ∈ looked, l.found.isSome) ∧ looked.flatMap (·.found.getD []) = found := by
  unfold settle
  cases missing : looked.find? (·.found.isNone) with
  | some l =>
    have hl := List.mem_of_find?_eq_some missing
    have nothing := List.find?_some missing
    simp only [reduceCtorEq, false_iff, not_and]
    intro all_found
    simp [Option.isSome_iff_ne_none.1 (all_found l hl)] at nothing
  | none =>
    have all_found : ∀ l ∈ looked, l.found.isSome := by
      simpa [Option.isSome_iff_ne_none] using missing
    exact ⟨fun settled => ⟨all_found, Except.ok.inj settled⟩, fun h => congrArg _ h.2⟩

/-- What was selected is the first of each name among what the look-ups found. -/
theorem selection_eq_ok {selector : String} {selected : List Indexer}
    (h : selection indexers definitions selector = .ok selected) :
    ∃ found, settle ((commaItems selector).flatMap (lookups indexers definitions)) = .ok found
      ∧ found.eraseDupsBy (fun i j => i.name == j.name) = selected ∧ selected ≠ [] := by
  unfold selection at h
  split at h
  · cases h
  · next found settled =>
    refine ⟨found, settled, ?_⟩
    split at h
    · cases h
    · next other =>
      obtain rfl := Except.ok.inj h
      exact ⟨rfl, other⟩

/-- What a selector selects is what its look-ups come to. So what is selected is registered, differs
in name, and is something; and no part of the selector is passed over, since everything that was
looked up is known and has one of its name among what is selected. -/
theorem resolve_eq_selection (indexers : List Indexer) (definitions : List (String × List String))
    (selector : String) :
    (assemble indexers definitions).resolve selector = selection indexers definitions selector
      ∧ ∀ selected, (assemble indexers definitions).resolve selector = .ok selected →
        selected ≠ [] ∧ (selected.map (·.name)).Nodup ∧ (∀ i ∈ selected, i ∈ indexers)
          ∧ ∀ part ∈ commaItems selector, ∀ l ∈ lookups indexers definitions part,
              ∃ found, l.found = some found ∧ ∀ i ∈ found, ∃ j ∈ selected, j.name = i.name := by
  refine ⟨resolve_assemble selector, fun selected resolved => ?_⟩
  have registered := (mem_of_resolve resolved).2
  rw [assemble_eq] at registered
  rw [resolve_assemble] at resolved
  obtain ⟨found, settled, rfl, some_selected⟩ := selection_eq_ok resolved
  obtain ⟨all_found, rfl⟩ := settle_eq_ok_iff.1 settled
  refine ⟨some_selected, nodup_eraseDupsBy_key Indexer.name _, registered, ?_⟩
  intro part hp l hl
  have looked := List.mem_flatMap.2 ⟨part, hp, hl⟩
  obtain ⟨found, answer⟩ := Option.isSome_iff_exists.1 (all_found l looked)
  refine ⟨found, answer, fun i hi => exists_key_mem_eraseDupsBy ?_⟩
  exact List.mem_flatMap.2 ⟨l, looked, by rwa [answer]⟩

/-- An alias that was defined again, blank parts, and names in other letters. -/
theorem resolve_eq_selection_redefined :
    let indexers := ["rarbg", "TPB", "nyaa"].map fun name => ({ name } : Script).toIndexer
    let definitions := [("Movies", ["rarbg"]), ("MOVIES", ["tpb", "Rarbg"])]
    ∃ selected, (assemble indexers definitions).resolve " Nyaa,, movies ,ALL" = .ok selected
      ∧ selected.map (·.name) = ["nyaa", "TPB", "rarbg"] ∧ (selected.map (·.name)).Nodup := by
  intro indexers definitions
  obtain ⟨selected, resolved, names⟩ :
      ∃ selected, (assemble indexers definitions).resolve " Nyaa,, movies ,ALL" = .ok selected
        ∧ selected.map (·.name) = ["nyaa", "TPB", "rarbg"] := ⟨_, by rfl, by rfl⟩
  have distinct := (resolve_eq_selection indexers definitions _).2 selected resolved
  exact ⟨selected, resolved, names, distinct.2.1⟩

end TorznabGateway.Registry
