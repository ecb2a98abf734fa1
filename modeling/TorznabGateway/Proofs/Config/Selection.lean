import TorznabGateway.Config.Registry
import TorznabGateway.Proofs.Config.Acceptance
import TorznabGateway.Proofs.Indexer.Registry

/-!
# Selecting what is configured

Which indexers the names and aliases of an accepted configuration select.

## Main definitions

* `Config.named?`: the enabled indexer that a target of an alias names, letter case aside.
* `Config.IsSpelled`: a target that agrees with the name of an enabled indexer up to ASCII case.

## Main statements

* `Config.resolve_alias`: what an alias selects, and when it cannot be resolved.
* `Config.resolve_configured`: every indexer is selected by its own name, and all by `all`.
* `Config.NamesFit.resolve_trim_source`: a name with white space around it selects what it would
  select without.
* `Config.selectsAs_of_perm`: the order in which aliases are listed does not matter, unless two of
  them differ in letter case only.
-/
namespace TorznabGateway.Config

open Text Jackett

variable {c : Config} {read : Url.Reader} {network : Network}

/-! ## The registry of a configuration -/

theorem registry_eq (c : Config) (read : Url.Reader) (network : Network) :
    c.registry network read =
      { indexers := c.sources.map (·.toIndexer read network)
        aliases := (c.aliases.map fun a => (lowercase a.1, a.2)).reverse } := by
  have added : c.registry network read
      = c.sources.foldl (fun r s => r.addIndexer (s.toIndexer read network))
          (c.aliases.foldl (fun r a => r.addAlias a.1 a.2) {}) := rfl
  rw [added, Registry.foldl_addAlias, ← List.foldl_map, Registry.foldl_addIndexer]
  simp

theorem indexers_registry (c : Config) (read : Url.Reader) (network : Network) :
    (c.registry network read).indexers = c.sources.map (·.toIndexer read network) := by
  rw [registry_eq]

theorem aliases_registry (c : Config) (read : Url.Reader) (network : Network) :
    (c.registry network read).aliases = (c.aliases.map fun a => (lowercase a.1, a.2)).reverse := by
  rw [registry_eq]

/-- Of two aliases with one lower-case form the one that is listed last counts. -/
example :
    let listed (aliases : List (String × List String)) : Registry :=
      ({ aliases } : Config).registry fun _ _ => .error .timedOut
    (listed [("Movies", ["a"]), ("movies", ["b"])]).targets? "movies" = some ["b"]
      ∧ (listed [("movies", ["b"]), ("Movies", ["a"])]).targets? "movies" = some ["a"] := by
  decide

theorem mem_sources {s : Source} :
    s ∈ c.sources ↔ ∃ j, c.jackett = some j ∧ ∃ i ∈ j.indexers, i.enabled ∧ j.source i = s := by
  unfold sources
  cases c.jackett <;> simp [and_assoc]

theorem map_name_sources (c : Config) :
    c.sources.map (·.name) = (c.jackettIndexers.filter (·.enabled)).map (·.name) := by
  unfold sources jackettIndexers
  cases c.jackett with
  | none => rfl
  | some j => rw [List.map_map]; rfl

/-- The names of registered indexers differ, letter case aside. -/
theorem NamesFit.nodup_sources (h : c.NamesFit) :
    (c.sources.map fun s => lowercase s.name).Nodup := by
  have keys : (c.sources.map fun s => lowercase s.name)
      = (c.jackettIndexers.filter (·.enabled)).map fun i => lowercase i.name := by
    simpa [Function.comp_def] using congrArg (List.map lowercase) (map_name_sources c)
  rw [keys]
  exact h.nodup.sublist (List.filter_sublist.map _)

theorem NamesFit.distinctNames (h : c.NamesFit) (read : Url.Reader) (network : Network) :
    (c.registry network read).DistinctNames := by
  rw [Registry.DistinctNames, indexers_registry, List.map_map]
  refine List.Nodup.of_map lowercase ?_
  simpa [Function.comp_def, lowercase_asciiLower, Source.toIndexer] using h.nodup_sources

theorem NamesFit.find?_source (h : c.NamesFit) (read : Url.Reader) (network : Network) {s : Source}
    (hs : s ∈ c.sources) {name : String} (matched : eqIgnoreAsciiCase s.name name) :
    (c.registry network read).find? name = some (s.toIndexer read network) := by
  have registered : s.toIndexer read network ∈ (c.registry network read).indexers := by
    rw [indexers_registry]
    exact List.mem_map_of_mem hs
  have same : eqIgnoreAsciiCase (s.toIndexer read network).name name := matched
  exact Registry.find?_of_matches (h.distinctNames read network) registered same

/-! ## Targets of aliases -/

/-- The enabled indexer that a target names, letter case aside. -/
def named? (c : Config) (read : Url.Reader) (network : Network) (target : String) :
    Option Indexer :=
  (c.sources.find? fun s => lowercase s.name = lowercase target).map (·.toIndexer read network)

/-- Whether a target agrees with the name of an enabled indexer up to the case of ASCII letters. -/
def IsSpelled (c : Config) (target : String) : Prop :=
  ∃ s ∈ c.sources, eqIgnoreAsciiCase s.name target

instance (c : Config) (target : String) : Decidable (c.IsSpelled target) :=
  inferInstanceAs (Decidable (∃ s ∈ c.sources, _))

/-- Every target of an alias names exactly one enabled indexer. -/
theorem NamesFit.existsUnique_source (h : c.NamesFit) {a : String × List String}
    (ha : a ∈ c.aliases) {t : String} (ht : t ∈ a.2) :
    ∃! s, s ∈ c.sources ∧ lowercase s.name = lowercase t := by
  obtain ⟨i, hi, on, same⟩ := h.enabled_of_target ha ht
  obtain ⟨j, jackett, hi⟩ : ∃ j, c.jackett = some j ∧ i ∈ j.indexers := by
    unfold jackettIndexers at hi
    cases jackett : c.jackett with
    | none => simp [jackett] at hi
    | some j => exact ⟨j, rfl, by simpa [jackett] using hi⟩
  refine ⟨j.source i, ⟨mem_sources.2 ⟨j, jackett, i, hi, on, rfl⟩, same⟩, ?_⟩
  rintro s ⟨hs, other⟩
  have hi' := mem_sources.2 ⟨j, jackett, i, hi, on, rfl⟩
  exact List.inj_on_of_nodup_map h.nodup_sources hs hi' (other.trans same.symm)

/-- A target that is spelled like the name of an indexer is found, and is the one it names. -/
theorem NamesFit.findTarget_of_spelled (h : c.NamesFit) (read : Url.Reader) (network : Network)
    {t : String} (spelled : c.IsSpelled t) :
    ∃ i, c.named? read network t = some i ∧ (c.registry network read).findTarget t = .ok i := by
  obtain ⟨s, hs, matched⟩ := spelled
  have same := lowercase_eq_of_eqIgnoreAsciiCase matched
  have first : c.sources.find? (fun s => lowercase s.name = lowercase t) = some s :=
    find?_eq_some_of_nodup h.nodup_sources hs (decide_eq_true same) fun s' other =>
      (of_decide_eq_true other).trans same.symm
  refine ⟨s.toIndexer read network, by rw [named?, first, Option.map_some], ?_⟩
  rw [Registry.findTarget, h.find?_source read network hs matched]

theorem findTarget_of_not_spelled {t : String} (other : ¬c.IsSpelled t) :
    (c.registry network read).findTarget t = .error (.unknownIndex t) := by
  have absent : (c.registry network read).find? t = none := by
    rw [Registry.find?_eq_none_iff, indexers_registry]
    intro i hi matched
    obtain ⟨s, hs, rfl⟩ := List.mem_map.1 hi
    exact other ⟨s, hs, matched⟩
  rw [Registry.findTarget, absent]

/-! ## Selectors -/

theorem IsName.nonBlank? {name : String} (h : IsName name) (trimmed : trim name = name) :
    nonBlank? name = some name := by
  have some_text := h.not_blank
  unfold Text.nonBlank? at some_text ⊢
  rw [trimmed] at some_text ⊢
  grind

/-- An alias is looked up under its lower-case form, where one of the aliases with this form is. -/
theorem exists_targets? (read : Url.Reader) (network : Network) {a : String × List String}
    (ha : a ∈ c.aliases) :
    ∃ b ∈ c.aliases, lowercase b.1 = lowercase a.1
      ∧ (c.registry network read).targets? a.1 = some b.2 := by
  rw [Registry.targets?, aliases_registry]
  cases found : (c.aliases.map fun a => (lowercase a.1, a.2)).reverse.find?
      fun b => b.1 == lowercase a.1 with
  | none =>
    have := List.find?_eq_none.1 found (lowercase a.1, a.2)
      (List.mem_reverse.2 (List.mem_map.2 ⟨a, ha, rfl⟩))
    simp at this
  | some entry =>
    have same := List.find?_some found
    obtain ⟨b, hb, rfl⟩ := List.mem_map.1 (List.mem_reverse.1 (List.mem_of_find?_eq_some found))
    exact ⟨b, hb, by simpa using same, rfl⟩

/-- No indexer has the name of an alias. -/
theorem NamesFit.find?_alias (h : c.NamesFit) {a : String × List String} (ha : a ∈ c.aliases) :
    (c.registry network read).find? a.1 = none := by
  rw [Registry.find?_eq_none_iff, indexers_registry]
  intro i hi matched
  obtain ⟨s, hs, rfl⟩ := List.mem_map.1 hi
  obtain ⟨j, jackett, entry, configured, -, rfl⟩ := mem_sources.1 hs
  apply (h.aliases a ha).no_indexer
  rw [← lowercase_eq_of_eqIgnoreAsciiCase matched, indexerKeys, jackettIndexers, jackett]
  exact List.mem_map.2 ⟨entry, configured, rfl⟩

/-! ## What is selected -/

/-- What the configured name or alias selects that stands alone. -/
theorem NamesFit.resolve_alias_targets (h : c.NamesFit) {a : String × List String}
    (ha : a ∈ c.aliases) (trimmed : trim a.1 = a.1) {targets : List String}
    (stored : (c.registry network read).targets? a.1 = some targets) :
    (c.registry network read).resolve a.1
      = targets.mapM (c.registry network read).findTarget >>= fun found =>
          if found = [] then .error .empty
          else .ok (found.eraseDupsBy fun i j => i.name == j.name) := by
  have name := (h.aliases a ha).isName
  rw [Registry.resolve_of_name name.no_comma (name.nonBlank? trimmed) name.not_all,
    h.find?_alias ha, stored]

/-- Aliases that differ in letter case only select the same, whatever their targets are. -/
theorem NamesFit.resolve_alias_congr (h : c.NamesFit) (read : Url.Reader) (network : Network)
    {a b : String × List String} (ha : a ∈ c.aliases) (hb : b ∈ c.aliases)
    (trimmed_a : trim a.1 = a.1) (trimmed_b : trim b.1 = b.1)
    (same : lowercase a.1 = lowercase b.1) :
    (c.registry network read).resolve a.1 = (c.registry network read).resolve b.1 := by
  obtain ⟨entry, -, -, stored⟩ := exists_targets? read network ha
  have stored_b : (c.registry network read).targets? b.1 = some entry.2 := by
    rwa [Registry.targets?, ← same, ← Registry.targets?]
  rw [h.resolve_alias_targets ha trimmed_a stored, h.resolve_alias_targets hb trimmed_b stored_b]

/-- An alias selects the enabled indexers that its targets name, letter case aside, in their order
and each once, as long as every target agrees with a name up to the case of ASCII letters. The first
that does not is reported as unknown. Of aliases that differ in letter case only, one counts. -/
theorem resolve_alias (read : Url.Reader) (network : Network) (valid : c.validate = .ok ())
    {a : String × List String} (ha : a ∈ c.aliases) (trimmed : trim a.1 = a.1) :
    ∃ b ∈ c.aliases, lowercase b.1 = lowercase a.1
      ∧ (∀ t ∈ b.2, ∃! s, s ∈ c.sources ∧ lowercase s.name = lowercase t)
      ∧ ((∀ t ∈ b.2, c.IsSpelled t) → (c.registry network read).resolve a.1
          = .ok ((b.2.filterMap (c.named? read network)).eraseDupsBy fun i j => i.name == j.name))
      ∧ ∀ before t after, b.2 = before ++ t :: after → (∀ u ∈ before, c.IsSpelled u) →
          ¬c.IsSpelled t → (c.registry network read).resolve a.1 = .error (.unknownIndex t) := by
  have fit := namesFit_of_validate valid
  obtain ⟨b, hb, same, stored⟩ := exists_targets? read network ha
  refine ⟨b, hb, same, fun t ht => fit.existsUnique_source hb ht, ?found, ?unknown⟩
  case found =>
    intro spelled
    have found := mapM_eq_ok fun t ht =>
      fit.findTarget_of_spelled read network (spelled t ht)
    have some_found : b.2.filterMap (c.named? read network) ≠ [] := by
      obtain ⟨t, ht⟩ := List.exists_mem_of_ne_nil _ (fit.aliases b hb).some_target
      obtain ⟨i, named, -⟩ := fit.findTarget_of_spelled read network (spelled t ht)
      exact List.ne_nil_of_mem (List.mem_filterMap.2 ⟨t, ht, named⟩)
    rw [fit.resolve_alias_targets ha trimmed stored, found]
    exact if_neg some_found
  case unknown =>
    intro before t after targets spelled other
    have found (u : String) (hu : u ∈ before) :
        ∃ i, (c.registry network read).findTarget u = .ok i := by
      obtain ⟨i, -, found⟩ := fit.findTarget_of_spelled read network (spelled u hu)
      exact ⟨i, found⟩
    rw [fit.resolve_alias_targets ha trimmed stored, targets,
      mapM_eq_error found (findTarget_of_not_spelled other)]
    rfl

/-- An indexer is selected by its own name, if no white space is around it. -/
theorem NamesFit.resolve_source (h : c.NamesFit) (read : Url.Reader) (network : Network)
    {s : Source} (hs : s ∈ c.sources) (trimmed : trim s.name = s.name) :
    (c.registry network read).resolve s.name = .ok [s.toIndexer read network] := by
  obtain ⟨j, jackett, i, hi, -, rfl⟩ := mem_sources.1 hs
  have name : IsName i.name := h.isName i (by simpa [jackettIndexers, jackett] using hi)
  have found := h.find?_source read network hs (eqIgnoreAsciiCase_refl i.name)
  exact (Registry.resolve_of_name name.no_comma (name.nonBlank? trimmed) name.not_all).trans
    (by rw [found])

/-- What is selected by the name of an indexer is what is selected by its name without the white
space around it. -/
theorem NamesFit.resolve_trim_source (h : c.NamesFit) (read : Url.Reader) (network : Network)
    {s : Source} (hs : s ∈ c.sources) :
    (c.registry network read).resolve s.name
      = (c.registry network read).resolve (trim s.name) := by
  obtain ⟨j, jackett, i, hi, -, rfl⟩ := mem_sources.1 hs
  have name : IsName i.name := h.isName i (by simpa [jackettIndexers, jackett] using hi)
  exact (Registry.resolve_trim _ name.no_comma).symm

theorem NamesFit.nodup_name_sources (h : c.NamesFit) : (c.sources.map (·.name)).Nodup := by
  refine List.Nodup.of_map lowercase ?_
  simpa [Function.comp_def] using h.nodup_sources

theorem NamesFit.resolve_all (h : c.NamesFit) (read : Url.Reader) (network : Network) :
    (c.registry network read).resolve "all" =
      if c.sources.map (·.toIndexer read network) = [] then .error .empty
      else .ok (c.sources.map (·.toIndexer read network)) := by
  have parts : commaParts "all" = ["all"] := by decide
  have everything : (c.registry network read).expand "all"
      = .ok (c.registry network read).indexers :=
    if_pos (eqIgnoreAsciiCase_refl "all")
  have nodup : ((c.sources.map (·.toIndexer read network)).map (·.name)).Nodup := by
    rw [List.map_map]
    exact h.nodup_name_sources
  rw [Registry.resolve_of_part parts, everything, indexers_registry]
  simp only [bind, Except.bind, ← Registry.distinct_eq_eraseDupsBy,
    Registry.distinct_of_nodup nodup]

/-- A configuration with indexers of the given names. -/
def ofNames (names : List String) (aliases : List (String × List String)) : Config where
  jackett := some
    { url := "http://localhost:9117", apiKey := "k", indexers := names.map fun name => { name } }
  aliases

/-- A network from which nothing comes back. -/
def silent : Network :=
  fun _ _ => .error .timedOut

/-- Targets that repeat a name in other letters. -/
theorem resolve_alias_movies :
    let c := ofNames ["rarbg", "TPB"] [("Movies", ["tpb", "rarbg", "TPB"])]
    c.validate = .ok () ∧ ("Movies", ["tpb", "rarbg", "TPB"]) ∈ c.aliases
      ∧ trim "Movies" = "Movies"
      ∧ ∃ found, (c.registry silent).resolve "Movies" = .ok found
        ∧ found.map (·.name) = ["TPB", "rarbg"] := by
  intro c
  have valid : c.validate = .ok () := by decide
  have ha : ("Movies", ["tpb", "rarbg", "TPB"]) ∈ c.aliases := List.mem_singleton_self _
  obtain ⟨b, hb, -, -, found, -⟩ := resolve_alias _ silent valid ha (by decide)
  obtain rfl := List.mem_singleton.1 hb
  exact ⟨valid, ha, by decide, _, found (by decide), by rfl⟩

/-- A target that differs from a name in the case of a letter outside ASCII is accepted, but is
unknown when the alias is resolved. And two aliases with different targets select the same. -/
theorem alias_unresolved_in_other_case :
    let accented := ofNames ["É"] [("x", ["é"])]
    let paired := ofNames ["a", "b"] [("Movies", ["a"]), ("movies", ["b"])]
    (accented.validate = .ok () ∧ trim "x" = "x" ∧ lowercase "é" = lowercase "É"
      ∧ (accented.registry silent).resolve "x" = .error (.unknownIndex "é"))
    ∧ paired.validate = .ok () ∧ trim "Movies" = "Movies" ∧ trim "movies" = "movies"
      ∧ (paired.registry silent).resolve "Movies" = (paired.registry silent).resolve "movies" := by
  intro accented paired
  have accepted : accented.validate = .ok () := by decide +kernel
  have unknown : (accented.registry silent).resolve "x" = .error (.unknownIndex "é") := by
    have other : ¬accented.IsSpelled "é" := by decide +kernel
    have ha : ("x", ["é"]) ∈ accented.aliases := List.mem_singleton_self _
    have stored : (accented.registry silent).targets? "x" = some ["é"] := by decide +kernel
    rw [(namesFit_of_validate accepted).resolve_alias_targets ha (by decide) stored,
      List.mapM_cons, findTarget_of_not_spelled other]
    rfl
  have valid : paired.validate = .ok () := by decide
  have same := (namesFit_of_validate valid).resolve_alias_congr (Url.parse? Url.asciiDomain?) silent
    (a := ("Movies", ["a"])) (b := ("movies", ["b"])) List.mem_cons_self
    (List.mem_cons_of_mem _ List.mem_cons_self) (by decide) (by decide) (by decide)
  exact ⟨⟨accepted, by decide, by decide +kernel, unknown⟩,
    valid, by decide, by decide, same⟩

/-- Every enabled indexer is found by its name, and is selected by it if no white space is around
it; `all` selects the enabled indexers in the order of the configuration, each once, if there is
one. -/
theorem resolve_configured (c : Config) (read : Url.Reader) (network : Network)
    (valid : c.validate = .ok ()) :
    (∀ j, c.jackett = some j → ∀ i ∈ j.indexers, i.enabled →
      (c.registry network read).find? i.name = some ((j.source i).toIndexer read network)
        ∧ (trim i.name = i.name →
          (c.registry network read).resolve i.name = .ok [(j.source i).toIndexer read network]))
    ∧ (c.sources ≠ [] →
        (c.registry network read).resolve "all" = .ok (c.sources.map (·.toIndexer read network)))
    ∧ (c.sources = [] → (c.registry network read).resolve "all" = .error .empty)
    ∧ c.sources.map (·.name) = (c.jackettIndexers.filter (·.enabled)).map (·.name)
    ∧ (c.sources.map (·.name)).Nodup := by
  have fit := namesFit_of_validate valid
  refine ⟨?own, ?all, ?none, map_name_sources c, fit.nodup_name_sources⟩
  case own =>
    intro j jackett i hi on
    have hs : j.source i ∈ c.sources := mem_sources.2 ⟨j, jackett, i, hi, on, rfl⟩
    have found := fit.find?_source read network hs (eqIgnoreAsciiCase_refl _)
    have selected := fit.resolve_source read network hs
    exact ⟨found, selected⟩
  case all =>
    intro some_source
    rw [fit.resolve_all, if_neg (by simpa using some_source)]
  case none =>
    intro no_source
    rw [fit.resolve_all, if_pos (by simpa using no_source)]

/-- A configuration with an indexer that is not enabled. -/
theorem resolve_configured_disabled :
    let off : JackettIndexerConfig := { name := "nyaa", enabled := false }
    let jackett : JackettConfig :=
      { url := "http://localhost:9117", apiKey := "k", indexers := [{ name := "TPB" }, off] }
    let c : Config := { jackett := some jackett }
    c.validate = .ok ()
      ∧ (c.registry silent).find? "TPB" = some ((jackett.source { name := "TPB" }).toIndexer
          (Url.parse? Url.asciiDomain?) silent)
      ∧ ∃ found, (c.registry silent).resolve "all" = .ok found ∧ found.map (·.name) = ["TPB"] := by
  intro off jackett c
  have valid : c.validate = .ok () := by decide
  obtain ⟨own, all, -⟩ := resolve_configured c _ silent valid
  have found := own jackett rfl { name := "TPB" } List.mem_cons_self rfl
  exact ⟨valid, found.1, _, all (List.cons_ne_nil _ _), rfl⟩

/-- Without an enabled indexer `all` selects nothing, which is an error. And a name with white space
around it is accepted, but a selector is cut before it is compared. -/
theorem configured_not_selected :
    ({} : Config).validate = .ok () ∧ ({} : Config).sources = []
      ∧ (({} : Config).registry silent).resolve "all" = .error .empty
      ∧ (ofNames [" a"] []).validate = .ok ()
      ∧ ((ofNames [" a"] []).registry silent).resolve " a" = .error (.unknownIndex "a") := by
  have valid : ({} : Config).validate = .ok () := by decide
  have none : (({} : Config).registry silent).resolve "all" = .error .empty :=
    ((namesFit_of_validate valid).resolve_all _ silent).trans (if_pos rfl)
  have part : commaParts " a" = ["a"] := by decide
  have unknown : ((ofNames [" a"] []).registry silent).resolve " a" = .error (.unknownIndex "a") :=
    Registry.resolve_of_part part
  exact ⟨valid, rfl, none, by decide, unknown⟩

end TorznabGateway.Config
