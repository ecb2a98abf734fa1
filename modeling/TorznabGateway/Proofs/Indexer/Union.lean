import Mathlib.Order.Bounds.Basic
import TorznabGateway.Indexer.Capabilities
import TorznabGateway.Proofs.Keyed

/-!
# The union of capabilities

What merged capabilities are, as seen from their members. Modes and categories of a merge stand in
strictly ascending order, so each is known by what is found under a function or a number: the union
of the modes that the members list for the function, and the first category with the number.

## Main definitions

* `Capabilities.entries`: what the members list for a function, in order.
* `Capabilities.IsUnion`: what it is to be the union of some capabilities.

## Main statements

* `Capabilities.addParameters_eq`: which parameters are added, and in which order.
* `Capabilities.find?_modes_merge`, `Capabilities.find?_categories_merge`: what is found in a merge.
* `Capabilities.supports_merge`: the merged capabilities offer what one of them offers.
* `Capabilities.isUnion_merge`: a merge is the union of its members.
-/
namespace TorznabGateway

namespace Capabilities

/-! ## Parameters -/

theorem addParameters_append (known new more : List String) :
    addParameters known (new ++ more) = addParameters (addParameters known new) more :=
  List.foldl_append

theorem addParameters_eq_foldl (known new : List String) :
    addParameters known new = new.foldl (pushNew id) known := by
  have step (known : List String) (p : String) :
      (if known.contains p then known else known ++ [p]) = pushNew id known p := by
    simp [pushNew]
  simp only [addParameters, step]

/-- Parameters that are not known are added in the order in which they are first listed. -/
theorem addParameters_eq (known new : List String) :
    addParameters known new = known ++ (new.filter (· ∉ known)).eraseDups := by
  have other (p : String) : (!known.any fun q => q == p) = decide (p ∉ known) := by
    rw [List.any_beq', List.contains_eq_mem, ← decide_not]
  simp only [addParameters_eq_foldl, foldl_pushNew_eq, id_eq, other, List.eraseDups]

theorem mem_addParameters {known new : List String} {p : String} :
    p ∈ addParameters known new ↔ p ∈ known ∨ p ∈ new := by
  rw [addParameters_eq, List.mem_append, List.mem_eraseDups]
  grind

/-! ## Modes -/

/-- What the members list for a function, in order. -/
def entries (cs : List Capabilities) (f : SearchFunction) : List SearchMode :=
  (cs.flatMap (·.modes)).filter (·.function == f)

variable {cs : List Capabilities} {f : SearchFunction} {m n : SearchMode} {ms : List SearchMode}

theorem mem_entries : n ∈ entries cs f ↔ ∃ c ∈ cs, n ∈ c.modes ∧ n.function = f := by
  simp only [entries, List.mem_filter, List.mem_flatMap, beq_iff_eq]
  grind

theorem foldl_addMode (m : SearchMode) (ms : List SearchMode) :
    ms.foldl addMode m = ⟨m.function, m.available || ms.any (·.available),
      addParameters m.parameters (ms.flatMap (·.parameters))⟩ := by
  induction ms generalizing m with
  | nil => simp [addParameters]
  | cons n ms ih => simp [ih, addMode, addParameters_append, Bool.or_assoc]

/-- The union of modes is of the function of the first, available if one of them is, and has the
parameters of the first and those that the others add. -/
theorem mergeModes_cons (m : SearchMode) (ms : List SearchMode) :
    mergeModes (m :: ms) = some ⟨m.function, (m :: ms).any (·.available),
      addParameters m.parameters (ms.flatMap (·.parameters))⟩ := by
  rw [mergeModes, foldl_addMode, List.any_cons]

theorem mergeModes_eq_none_iff : mergeModes ms = none ↔ ms = [] := by
  cases ms <;> simp [mergeModes]

theorem function_of_mergeModes (h : mergeModes (entries cs f) = some m) : m.function = f := by
  cases listed : entries cs f with
  | nil => simp [listed, mergeModes] at h
  | cons n ns =>
    have first : n ∈ entries cs f := by simp [listed]
    obtain ⟨-, -, -, function⟩ := mem_entries.1 first
    rw [listed, mergeModes_cons] at h
    rw [← Option.some.inj h, ← function]

theorem modes_merge (cs : List Capabilities) :
    (merge cs).modes = SearchFunction.all.filterMap fun f => mergeModes (entries cs f) :=
  rfl

theorem mem_modes_merge : m ∈ (merge cs).modes ↔ mergeModes (entries cs m.function) = some m := by
  rw [modes_merge, List.mem_filterMap]
  constructor
  · rintro ⟨f, -, merged⟩
    rwa [function_of_mergeModes merged]
  · intro merged
    exact ⟨m.function, SearchFunction.mem_all _, merged⟩

/-- Modes stand in the order of their functions, at most one for each. -/
theorem pairwise_modes_merge (cs : List Capabilities) :
    (merge cs).modes.Pairwise fun m n => m.function.position < n.function.position := by
  rw [modes_merge, List.pairwise_filterMap]
  have order : SearchFunction.all.Pairwise fun f g => f.position < g.position := by decide
  refine order.imp fun less m first n second => ?_
  rwa [function_of_mergeModes first, function_of_mergeModes second]

/-- The mode of a merge is the union of what the members list for its function. -/
theorem find?_modes_merge (cs : List Capabilities) (f : SearchFunction) :
    (merge cs).modes.find? (·.function == f) = mergeModes (entries cs f) := by
  have nodup := nodup_key_of_pairwise SearchMode.function _ (pairwise_modes_merge cs)
  cases merged : mergeModes (entries cs f) with
  | none =>
    rw [find?_key_eq_none_iff]
    rintro m hm rfl
    simp [mem_modes_merge.1 hm] at merged
  | some m =>
    have function := function_of_mergeModes merged
    rw [find?_key_eq_some_iff nodup, mem_modes_merge, function]
    exact ⟨merged, rfl⟩

/-- The functions of a merge are those that the members list. -/
theorem map_function_modes_merge (cs : List Capabilities) :
    (merge cs).modes.map (·.function)
      = SearchFunction.all.filter fun f => ∃ c ∈ cs, ∃ n ∈ c.modes, n.function = f := by
  rw [modes_merge, List.map_filterMap, ← List.filterMap_eq_filter]
  congr 1
  funext f
  cases merged : mergeModes (entries cs f) with
  | none =>
    have none_listed := List.eq_nil_iff_forall_not_mem.1 (mergeModes_eq_none_iff.1 merged)
    simp only [mem_entries] at none_listed
    grind [Option.guard]
  | some m =>
    have some_listed : entries cs f ≠ [] := by simp [← mergeModes_eq_none_iff, merged]
    obtain ⟨n, hn⟩ := List.exists_mem_of_ne_nil _ some_listed
    obtain ⟨c, hc, listed⟩ := mem_entries.1 hn
    have listed : ∃ c ∈ cs, ∃ n ∈ c.modes, n.function = f := ⟨c, hc, n, listed⟩
    simp [Option.guard, listed, function_of_mergeModes merged]

/-- Merged capabilities offer a function if one of them does. -/
theorem supports_merge (cs : List Capabilities) (f : SearchFunction) :
    (merge cs).supports f ↔ ∃ c ∈ cs, c.supports f := by
  have found : (merge cs).supports f ↔ ∃ m, mergeModes (entries cs f) = some m ∧ m.available := by
    simp only [supports, List.any_eq_true, mem_modes_merge, Bool.and_eq_true, beq_iff_eq]
    constructor
    · rintro ⟨m, merged, rfl, available⟩
      exact ⟨m, merged, available⟩
    · rintro ⟨m, merged, available⟩
      obtain rfl := function_of_mergeModes merged
      exact ⟨m, merged, rfl, available⟩
  have offered : (∃ c ∈ cs, c.supports f) ↔ (entries cs f).any (·.available) := by
    simp only [supports, List.any_eq_true, mem_entries]
    grind
  rw [found, offered]
  cases entries cs f with
  | nil => simp [mergeModes]
  | cons n ns => simp [mergeModes_cons]

theorem mem_parameters_merge (hm : m ∈ (merge cs).modes) {p : String} :
    p ∈ m.parameters ↔ ∃ c ∈ cs, ∃ n ∈ c.modes, n.function = m.function ∧ p ∈ n.parameters := by
  have listed : p ∈ m.parameters ↔ ∃ n ∈ entries cs m.function, p ∈ n.parameters := by
    have merged := mem_modes_merge.1 hm
    cases members : entries cs m.function with
    | nil => simp [members, mergeModes] at merged
    | cons n ns =>
      rw [members, mergeModes_cons] at merged
      rw [← Option.some.inj merged, mem_addParameters]
      simp
  rw [listed]
  simp only [mem_entries]
  grind

/-- Parameters stand in the order in which they are first listed, each once, unless the first mode
that the members list for a function repeats one itself. -/
theorem parameters_merge (hm : m ∈ (merge cs).modes)
    (nodup : ∀ n ∈ (entries cs m.function).head?, n.parameters.Nodup) :
    m.parameters = ((entries cs m.function).flatMap (·.parameters)).eraseDups := by
  have merged := mem_modes_merge.1 hm
  cases listed : entries cs m.function with
  | nil => simp [listed, mergeModes] at merged
  | cons n ns =>
    have once : n.parameters.eraseDups = n.parameters :=
      eraseDupsBy_key_of_nodup id (by simpa using nodup n (by simp [listed]))
    rw [listed, mergeModes_cons] at merged
    rw [← Option.some.inj merged, addParameters_eq, List.flatMap_cons, List.eraseDups_append, once]
    simp [List.removeAll]

/-! ## Categories -/

/-- Categories in strictly ascending order of their numbers. -/
def Ascending (categories : List Category) : Prop :=
  categories.Pairwise fun c d => c.id < d.id

variable {known : List Category} {c d : Category}

theorem mem_insertCategory (h : d ∈ insertCategory known c) : d = c ∨ d ∈ known := by
  fun_induction insertCategory known c <;> grind

theorem Ascending.insertCategory (ascending : Ascending known) (c : Category) :
    Ascending (insertCategory known c) := by
  unfold Ascending at ascending ⊢
  fun_induction Capabilities.insertCategory known c with
  | case1 => simp
  | case2 d ds less =>
    refine List.pairwise_cons.2 ⟨fun x hx => ?_, ascending⟩
    rcases List.mem_cons.1 hx with rfl | hx
    · exact less
    · exact less.trans (List.rel_of_pairwise_cons ascending hx)
  | case3 d ds _ same => exact ascending
  | case4 d ds less other ih =>
    obtain ⟨first, rest⟩ := List.pairwise_cons.1 ascending
    refine List.pairwise_cons.2 ⟨fun x hx => ?_, ih rest⟩
    rcases mem_insertCategory hx with rfl | hx
    · omega
    · exact first x hx

/-- Of two categories with one number the earlier stays. -/
theorem find?_insertCategory (ascending : Ascending known) (c : Category) (k : Nat) :
    (insertCategory known c).find? (·.id == k)
      = (known.find? (·.id == k)).or ([c].find? (·.id == k)) := by
  unfold Ascending at ascending
  fun_induction insertCategory known c with
  | case1 => simp
  | case2 d ds less =>
    by_cases same : c.id = k
    case pos =>
      have absent : (d :: ds).find? (·.id == k) = none := by
        rw [find?_key_eq_none_iff]
        intro x hx
        rcases List.mem_cons.1 hx with rfl | hx
        · omega
        · have := List.rel_of_pairwise_cons ascending hx
          omega
      simp [absent, same]
    case neg => simp [List.find?_cons, same]
  | case3 d ds _ same =>
    by_cases here : c.id = k <;> simp [here, ← same]
  | case4 d ds less other ih =>
    rw [List.find?_cons, List.find?_cons, ih ascending.of_cons]
    by_cases here : d.id = k
    case pos => simp [here]
    case neg =>
      have other : (d.id == k) = false := by simpa using here
      simp [other]

theorem Ascending.nodup (ascending : Ascending known) : (known.map (·.id)).Nodup :=
  nodup_key_of_pairwise Category.id id ascending

theorem Ascending.foldl_insertCategory (ascending : Ascending known) (more : List Category) :
    Ascending (more.foldl Capabilities.insertCategory known) := by
  induction more generalizing known with
  | nil => exact ascending
  | cons c more ih => exact ih (ascending.insertCategory c)

theorem find?_foldl_insertCategory (ascending : Ascending known) (more : List Category) (k : Nat) :
    (more.foldl insertCategory known).find? (·.id == k)
      = (known.find? (·.id == k)).or (more.find? (·.id == k)) := by
  induction more generalizing known with
  | nil => simp
  | cons c more ih =>
    rw [List.foldl_cons, ih (ascending.insertCategory c), find?_insertCategory ascending,
      Option.or_assoc, ← List.find?_append, List.singleton_append]

theorem ascending_categories_merge (cs : List Capabilities) : Ascending (merge cs).categories :=
  Ascending.foldl_insertCategory List.Pairwise.nil _

/-- The category of a merge is the first that the members list with its number. -/
theorem find?_categories_merge (cs : List Capabilities) (k : Nat) :
    (merge cs).categories.find? (·.id == k) = (cs.flatMap (·.categories)).find? (·.id == k) := by
  have found := find?_foldl_insertCategory List.Pairwise.nil (cs.flatMap (·.categories)) k
  rwa [List.find?_nil, Option.none_or] at found

/-! ## Limits -/

theorem max_merge (cs : List Capabilities) :
    (merge cs).limits.max = cs.foldl (fun m c => min m c.limits.max) Limits.own.max :=
  rfl

theorem foldl_min_max (a b : Nat) (cs : List Capabilities) :
    cs.foldl (fun m c => min m c.limits.max) (min a b)
      = min a (cs.foldl (fun m c => min m c.limits.max) b) := by
  induction cs generalizing b with
  | nil => rfl
  | cons c cs ih => rw [List.foldl_cons, List.foldl_cons, Nat.min_assoc, ih]

/-- The smallest of the members' maxima and the gateway's own. -/
theorem isLeast_max_merge (cs : List Capabilities) :
    IsLeast {n | n = Limits.own.max ∨ ∃ c ∈ cs, c.limits.max = n} (merge cs).limits.max := by
  rw [max_merge]
  generalize Limits.own.max = most
  induction cs generalizing most with
  | nil => simp
  | cons c cs ih =>
    rw [List.foldl_cons, Nat.min_comm, foldl_min_max]
    have members : {n | n = most ∨ ∃ d ∈ c :: cs, d.limits.max = n}
        = insert c.limits.max {n | n = most ∨ ∃ d ∈ cs, d.limits.max = n} := by
      ext n
      simp only [List.exists_mem_cons_iff, Set.mem_insert_iff, Set.mem_ofPred_eq]
      grind
    rw [members]
    exact (ih most).insert c.limits.max

/-! ## The union -/

/-- What it is to be the union of some capabilities. -/
structure IsUnion (cs : List Capabilities) (u : Capabilities) : Prop where
  /-- A function is offered if one of the members offers it. -/
  supports : ∀ f, u.supports f ↔ ∃ c ∈ cs, c.supports f
  /-- The functions are those that members list, each once, in the order of all functions. -/
  functions : u.modes.map (·.function)
    = SearchFunction.all.filter fun f => ∃ c ∈ cs, ∃ n ∈ c.modes, n.function = f
  mem_parameters : ∀ m ∈ u.modes, ∀ p, p ∈ m.parameters
    ↔ ∃ c ∈ cs, ∃ n ∈ c.modes, n.function = m.function ∧ p ∈ n.parameters
  /-- Parameters are in the order in which members first list them, each once, unless an entry of
  the function repeats one itself. -/
  parameters : ∀ m ∈ u.modes, (∀ n ∈ entries cs m.function, n.parameters.Nodup) →
    m.parameters.Nodup
      ∧ m.parameters = ((entries cs m.function).flatMap (·.parameters)).eraseDups
  ascending : u.categories.Pairwise fun c d => c.id < d.id
  ids : ∀ k, (∃ c ∈ u.categories, c.id = k) ↔ ∃ m ∈ cs, ∃ c ∈ m.categories, c.id = k
  /-- A category is the first that members list with its number, name included. -/
  first : ∀ c ∈ u.categories, (cs.flatMap (·.categories)).find? (·.id == c.id) = some c
  max : IsLeast {n | n = 1000 ∨ ∃ c ∈ cs, c.limits.max = n} u.limits.max
  default : u.limits.default = min 100 u.limits.max

/-- A merge is the union of its members. -/
theorem isUnion_merge (cs : List Capabilities) : IsUnion cs (merge cs) where
  supports := supports_merge cs
  functions := map_function_modes_merge cs
  mem_parameters _ hm _ := mem_parameters_merge hm
  parameters m hm nodup := by
    have firsts := parameters_merge hm fun n hn => nodup n (List.mem_of_head? hn)
    refine ⟨?_, firsts⟩
    rw [firsts]
    simpa [List.eraseDups] using nodup_eraseDupsBy_key id
      ((entries cs m.function).flatMap (·.parameters))
  ascending := ascending_categories_merge cs
  ids k := by
    rw [← isSome_find?_key_iff, find?_categories_merge, isSome_find?_key_iff]
    simp only [List.mem_flatMap]
    grind
  first c hc := by
    rw [← find?_categories_merge, find?_key_eq_some_iff (ascending_categories_merge cs).nodup]
    exact ⟨hc, rfl⟩
  max := isLeast_max_merge cs
  default := rfl

/-- Members that list a function and a category twice, and one that lists a parameter again. -/
theorem isUnion_merge_repeated :
    let a : Capabilities :=
      { modes := [⟨.movie, false, ["imdbid", "q"]⟩, ⟨.search, true, ["q"]⟩,
          ⟨.movie, true, ["year", "q"]⟩]
        categories := [⟨5000, "TV"⟩, ⟨2000, "Movies"⟩, ⟨5000, "Series"⟩]
        limits := ⟨5000, 7⟩ }
    let b : Capabilities :=
      { modes := [⟨.movie, false, ["tmdbid", "year"]⟩]
        categories := [⟨2000, "Film"⟩]
        limits := ⟨60, 50⟩ }
    (∀ n ∈ entries [a, b] .movie, n.parameters.Nodup)
      ∧ ∃ m ∈ (merge [a, b]).modes, m.function = .movie ∧ m.parameters.Nodup
        ∧ m.parameters = ((entries [a, b] .movie).flatMap (·.parameters)).eraseDups := by
  intro a b
  have nodup : ∀ n ∈ entries [a, b] .movie, n.parameters.Nodup := by decide
  let movie : SearchMode := ⟨.movie, true, ["imdbid", "q", "year", "tmdbid"]⟩
  have hm : movie ∈ (merge [a, b]).modes := by decide
  exact ⟨nodup, movie, hm, rfl, (isUnion_merge [a, b]).parameters movie hm nodup⟩

end Capabilities
end TorznabGateway
