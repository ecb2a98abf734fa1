import Mathlib.Data.List.Nodup
import TorznabGateway.Config.Validate
import TorznabGateway.Proofs.Outcome
import TorznabGateway.Proofs.Text.LetterCase

/-!
# Which configurations are accepted

What the check of a configuration establishes of the names in it: that they can stand in a selector
and in the path of a URL, that the indexers differ by them, and that every target of an alias is the
name of an indexer that is enabled.

## Main definitions

* `Config.IsName`: a name that an indexer or an alias can have.
* `Config.AliasFits`: an alias for enabled indexers.
* `Config.NamesFit`: all that is asked of the names in a configuration.

## Main statements

* `Config.validate_eq_ok_iff`: the configurations that are accepted.
* `Config.NamesFit.enabled_of_target`: the indexer that a target of an alias names.
-/
namespace TorznabGateway.Config

open Text

variable {c : Config}

theorem require_eq_ok_iff {condition : Bool} {fault : ConfigFault} :
    require condition fault = .ok () ↔ condition = true := by
  cases condition <;> simp [require]

/-! ## Names -/

/-- Whether an indexer or an alias can have a name. -/
structure IsName (name : String) : Prop where
  not_blank : (nonBlank? name).isSome
  no_comma : ',' ∉ name.toList
  no_slash : '/' ∉ name.toList
  not_all : ¬eqIgnoreAsciiCase name "all"

theorem validateName_eq_ok_iff {kind : NameKind} {name : String} :
    validateName kind name = .ok () ↔ IsName name := by
  simp only [validateName, bind_unit_eq_ok_iff, require_eq_ok_iff, Bool.not_eq_true',
    Bool.or_eq_false_iff, List.contains_eq_mem, decide_eq_false_iff_not]
  constructor
  · rintro ⟨blank, ⟨comma, slash⟩, reserved⟩
    exact ⟨blank, comma, slash, by simp [reserved]⟩
  · rintro ⟨blank, comma, slash, reserved⟩
    exact ⟨blank, ⟨comma, slash⟩, by simpa using reserved⟩

/-- The key under which names are compared. -/
def nameKey (i : JackettIndexerConfig) : String :=
  lowercase i.name

theorem validateIndexers_eq_ok_iff {earlier : List String} {xs : List JackettIndexerConfig} :
    validateIndexers earlier xs = .ok () ↔
      (∀ i ∈ xs, IsName i.name) ∧ (xs.map nameKey).Nodup ∧ ∀ i ∈ xs, nameKey i ∉ earlier := by
  induction xs generalizing earlier with
  | nil => simp [validateIndexers]
  | cons i rest ih =>
    simp only [validateIndexers, bind_unit_eq_ok_iff, validateName_eq_ok_iff, require_eq_ok_iff, ih,
      List.map_cons, List.nodup_cons, List.forall_mem_cons, List.mem_map, nameKey]
    grind

/-! ## Aliases -/

/-- Whether an alias names enabled indexers, and is no name of an indexer itself. -/
structure AliasFits (c : Config) (a : String × List String) : Prop where
  isName : IsName a.1
  no_indexer : lowercase a.1 ∉ c.indexerKeys
  some_target : a.2 ≠ []
  known : ∀ t ∈ a.2, lowercase t ∈ c.indexerKeys
  not_disabled : ∀ t ∈ a.2, lowercase t ∉ c.disabledKeys

theorem validateAlias_eq_ok_iff {a : String × List String} :
    c.validateAlias a = .ok () ↔ c.AliasFits a := by
  simp only [validateAlias, validateTarget, bind_unit_eq_ok_iff, validateName_eq_ok_iff,
    require_eq_ok_iff, forM_eq_ok_iff, Bool.not_eq_true', List.contains_eq_mem,
    decide_eq_false_iff_not, decide_eq_true_eq, List.isEmpty_eq_false_iff]
  constructor
  · rintro ⟨name, other, some_target, targets⟩
    exact ⟨name, other, some_target, fun t ht => (targets t ht).1, fun t ht => (targets t ht).2⟩
  · rintro ⟨name, other, some_target, known, enabled⟩
    exact ⟨name, other, some_target, fun t ht => ⟨known t ht, enabled t ht⟩⟩

/-! ## Configurations -/

/-- Whether the names of a configuration fit together. -/
structure NamesFit (c : Config) : Prop where
  isName : ∀ i ∈ c.jackettIndexers, IsName i.name
  nodup : c.indexerKeys.Nodup
  aliases : ∀ a ∈ c.aliases, c.AliasFits a

/-- The configurations that are accepted: single settings and names are checked apart. -/
theorem validate_eq_ok_iff :
    c.validate = .ok () ↔ c.validateSettings = .ok ()
      ∧ (∀ j, c.jackett = some j → j.url ≠ "" ∧ j.timeoutSecs ≠ 0) ∧ c.NamesFit := by
  have fit_iff : c.NamesFit ↔ ((∀ i ∈ c.jackettIndexers, IsName i.name) ∧ c.indexerKeys.Nodup)
      ∧ ∀ a ∈ c.aliases, c.AliasFits a :=
    ⟨fun h => ⟨⟨h.isName, h.nodup⟩, h.aliases⟩, fun h => ⟨h.1.1, h.1.2, h.2⟩⟩
  rw [validate, bind_unit_eq_ok_iff, fit_iff, indexerKeys, jackettIndexers]
  cases jackett : c.jackett with
  | none =>
    simp only [bind_unit_eq_ok_iff, forM_eq_ok_iff, validateAlias_eq_ok_iff]
    simp
  | some j =>
    simp only [bind_unit_eq_ok_iff, forM_eq_ok_iff, validateAlias_eq_ok_iff, validateJackett,
      require_eq_ok_iff, validateIndexers_eq_ok_iff, Bool.not_eq_true', String.isEmpty_eq_false_iff,
      bne_iff_ne, Option.some.injEq, forall_eq', List.not_mem_nil, not_false_eq_true, implies_true,
      and_true, and_assoc]
    rfl

theorem namesFit_of_validate (h : c.validate = .ok ()) : c.NamesFit :=
  (validate_eq_ok_iff.1 h).2.2

/-- The indexer that a target of an alias names, letter case aside, is enabled. -/
theorem NamesFit.enabled_of_target (h : c.NamesFit) {a : String × List String} (ha : a ∈ c.aliases)
    {t : String} (ht : t ∈ a.2) :
    ∃ i ∈ c.jackettIndexers, i.enabled ∧ lowercase i.name = lowercase t := by
  obtain ⟨i, hi, same⟩ := List.mem_map.1 ((h.aliases a ha).known t ht)
  refine ⟨i, hi, ?_, same⟩
  by_contra off
  apply (h.aliases a ha).not_disabled t ht
  exact List.mem_map.2 ⟨i, List.mem_filter.2 ⟨hi, by simpa using off⟩, same⟩

end TorznabGateway.Config
