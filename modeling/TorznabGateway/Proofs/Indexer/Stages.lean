import TorznabGateway.Proofs.Indexer.Union
import TorznabGateway.Torznab.CapsDocument

/-!
# Merging in stages

Capabilities can be merged group by group: what was merged before counts like its members one after
another. Nor does it matter that modes and categories are put in order, since members can also be
taken in one at a time, each mode and category at the end of those there are, and sorted when all
are in.

## Main definitions

* `Capabilities.takeIn`: the union so far with one more member, in the order of arrival.
* `Capabilities.sorted`: modes and categories in their order.

## Main statements

* `Capabilities.merge_append_merge_cons`: a merge among the members stands for its own members.
* `Capabilities.merge_flattens`: merging in stages gives what merging at once gives.
* `Capabilities.merge_eq_sorted_foldl`: a merge is what is taken in one member at a time, sorted.
-/
namespace TorznabGateway.Capabilities

variable {xs ys : List Capabilities} {f : SearchFunction}

/-! ## Modes that were merged before -/

theorem addParameters_of_mem {known : List String} {p : String} (h : p ∈ known) :
    addParameters known [p] = known := by
  simp [addParameters, h]

theorem addParameters_of_not_mem {known : List String} {p : String} (h : p ∉ known) :
    addParameters known [p] = known ++ [p] := by
  simp [addParameters, h]

theorem addParameters_assoc (a b c : List String) :
    addParameters (addParameters a b) c = addParameters a (addParameters b c) := by
  have one (b : List String) (p : String) :
      addParameters (addParameters a b) [p] = addParameters a (addParameters b [p]) := by
    by_cases there : p ∈ b
    · rw [addParameters_of_mem there, addParameters_of_mem (mem_addParameters.2 (.inr there))]
    · rw [addParameters_of_not_mem there, addParameters_append]
  induction c generalizing b with
  | nil => rfl
  | cons p c ih =>
    have first (known : List String) :
        addParameters known (p :: c) = addParameters (addParameters known [p]) c :=
      addParameters_append known [p] c
    rw [first, first, one, ih]

theorem addMode_assoc (l m n : SearchMode) : addMode (addMode l m) n = addMode l (addMode m n) := by
  simp only [addMode, Bool.or_assoc, addParameters_assoc]

instance : Std.Associative addMode :=
  ⟨addMode_assoc⟩

/-- The union of modes among others stands for these modes. -/
theorem mergeModes_append_toList (before ms after : List SearchMode) :
    mergeModes (before ++ (mergeModes ms).toList ++ after)
      = mergeModes (before ++ ms ++ after) := by
  cases ms with
  | nil => rfl
  | cons m ms =>
    cases before with
    | nil => simp [mergeModes]
    | cons b before => simp [mergeModes, List.foldl_assoc]

theorem entries_append (xs ys : List Capabilities) (f : SearchFunction) :
    entries (xs ++ ys) f = entries xs f ++ entries ys f := by
  simp [entries]

theorem entries_cons (c : Capabilities) (cs : List Capabilities) (f : SearchFunction) :
    entries (c :: cs) f = c.modes.filter (·.function == f) ++ entries cs f := by
  simp [entries]

/-- A merge lists one mode of a function, if its members list any. -/
theorem filter_modes_merge (cs : List Capabilities) (f : SearchFunction) :
    (merge cs).modes.filter (·.function == f) = (mergeModes (entries cs f)).toList := by
  have nodup := nodup_key_of_pairwise SearchMode.function _ (pairwise_modes_merge cs)
  rw [filter_key_eq_toList_find? nodup, find?_modes_merge]

/-! ## Merges -/

/-- A merge is known by the unions of its modes, by the categories that are found, and by the
maximum. -/
theorem merge_eq_merge (modes : ∀ f, mergeModes (entries xs f) = mergeModes (entries ys f))
    (categories : ∀ k, (xs.flatMap (·.categories)).find? (·.id == k)
      = (ys.flatMap (·.categories)).find? (·.id == k))
    (max : (merge xs).limits.max = (merge ys).limits.max) : merge xs = merge ys := by
  have same_modes : (merge xs).modes = (merge ys).modes := by
    rw [modes_merge, modes_merge, funext modes]
  have same_categories : (merge xs).categories = (merge ys).categories := by
    refine eq_of_find?_eq Category.id id (ascending_categories_merge xs)
      (ascending_categories_merge ys) fun k => ?_
    rw [find?_categories_merge, find?_categories_merge, categories]
  have default (cs : List Capabilities) :
      (merge cs).limits
        = ⟨(merge cs).limits.max, min Limits.own.default (merge cs).limits.max⟩ := rfl
  have same_limits : (merge xs).limits = (merge ys).limits := by
    rw [default xs, default ys, max]
  have parts (cs : List Capabilities) :
      merge cs = ⟨(merge cs).modes, (merge cs).categories, (merge cs).limits⟩ := rfl
  rw [parts xs, parts ys, same_modes, same_categories, same_limits]

/-- A merge among the members stands for its own members. -/
theorem merge_append_merge_cons (before cs after : List Capabilities) :
    merge (before ++ merge cs :: after) = merge (before ++ cs ++ after) := by
  apply merge_eq_merge
  case modes =>
    intro f
    rw [entries_append, entries_cons, filter_modes_merge, ← List.append_assoc,
      mergeModes_append_toList, entries_append, entries_append]
  case categories =>
    intro k
    simp only [List.flatMap_append, List.flatMap_cons, List.find?_append, find?_categories_merge,
      Option.or_assoc]
  case max =>
    have capped := foldl_min_max Limits.own.max Limits.own.max before
    have both := foldl_min_max ((merge before).limits.max) Limits.own.max cs
    rw [Nat.min_self, ← max_merge, Nat.min_comm] at capped
    rw [← capped, ← max_merge] at both
    simp only [max_merge, List.foldl_append, List.foldl_cons] at both ⊢
    rw [both]

theorem merge_append_map_merge (before : List Capabilities) (groups : List (List Capabilities)) :
    merge (before ++ groups.map merge) = merge (before ++ groups.flatten) := by
  induction groups generalizing before with
  | nil => rfl
  | cons group groups ih =>
    rw [List.map_cons, merge_append_merge_cons, ih, List.flatten_cons, List.append_assoc]

/-- Merging in stages gives what merging at once gives, parameters and names in the same order, and
so the same document. -/
theorem merge_flattens (xs ys : List Capabilities) :
    merge ([merge xs] ++ ys) = merge (xs ++ ys)
      ∧ merge [merge xs] = merge xs
      ∧ ∀ groups : List (List Capabilities), merge (groups.map merge) = merge groups.flatten
          ∧ ∀ title, CapsDocument.render title (merge (groups.map merge))
              = CapsDocument.render title (merge groups.flatten) := by
  refine ⟨merge_append_merge_cons [] xs ys, ?idempotent, fun groups => ?stages⟩
  case idempotent =>
    have flat := merge_append_merge_cons [] xs []
    simpa using flat
  case stages =>
    have flat : merge (groups.map merge) = merge groups.flatten := merge_append_map_merge [] groups
    exact ⟨flat, fun title => by rw [flat]⟩

/-! ## One member at a time -/

/-- Put in a mode: into the one of its function, or else at the end. -/
def putMode (ms : List SearchMode) (n : SearchMode) : List SearchMode :=
  match ms with
  | [] => [n]
  | m :: ms => if m.function = n.function then addMode m n :: ms else m :: putMode ms n

/-- The union so far with one more member, everything new at the end. -/
def takeIn (u c : Capabilities) : Capabilities where
  modes := c.modes.foldl putMode u.modes
  categories := c.categories.foldl (pushNew (·.id)) u.categories
  limits := { u.limits with max := min u.limits.max c.limits.max }

/-- Modes and categories in their order, and no more by default than at most. -/
def sorted (u : Capabilities) : Capabilities where
  modes := u.modes.mergeSort fun m n => m.function.position ≤ n.function.position
  categories := u.categories.mergeSort fun c d => c.id ≤ d.id
  limits := { u.limits with default := min u.limits.default u.limits.max }

variable {ms : List SearchMode}

theorem mergeModes_toList (o : Option SearchMode) : mergeModes o.toList = o := by
  cases o <;> rfl

theorem find?_putMode (ms : List SearchMode) (n : SearchMode) (f : SearchFunction) :
    (putMode ms n).find? (·.function == f)
      = mergeModes ((ms.find? (·.function == f)).toList ++ [n].filter (·.function == f)) := by
  fun_induction putMode ms n with
  | case1 => by_cases here : n.function = f <;> simp [here, mergeModes]
  | case2 m ms same =>
    by_cases here : m.function = f
    case pos => simp [here, ← same, addMode, mergeModes]
    case neg =>
      have other : (m.function == f) = false := by simpa using here
      simp [other, ← same, addMode, mergeModes_toList]
  | case3 m ms other ih =>
    by_cases here : m.function = f
    case pos =>
      have new : (n.function == f) = false := by simpa [← here] using Ne.symm other
      simp [here, new, mergeModes]
    case neg =>
      have old : (m.function == f) = false := by simpa using here
      simp [old, ih]

theorem map_function_putMode (ms : List SearchMode) (n : SearchMode) :
    (putMode ms n).map (·.function) = if n.function ∈ ms.map (·.function) then ms.map (·.function)
      else ms.map (·.function) ++ [n.function] := by
  fun_induction putMode ms n <;> grind [addMode]

theorem nodup_foldl_putMode (nodup : (ms.map (·.function)).Nodup) (ns : List SearchMode) :
    ((ns.foldl putMode ms).map (·.function)).Nodup := by
  induction ns generalizing ms with
  | nil => exact nodup
  | cons n ns ih =>
    apply ih
    rw [map_function_putMode]
    split
    · exact nodup
    · next new => exact List.nodup_append_comm.1 (List.nodup_cons.2 ⟨new, nodup⟩)

theorem find?_foldl_putMode (ms ns : List SearchMode) (f : SearchFunction) :
    (ns.foldl putMode ms).find? (·.function == f)
      = mergeModes ((ms.find? (·.function == f)).toList ++ ns.filter (·.function == f)) := by
  induction ns generalizing ms with
  | nil => simp [mergeModes_toList]
  | cons n ns ih =>
    have flat := mergeModes_append_toList []
      ((ms.find? (·.function == f)).toList ++ [n].filter (·.function == f))
      (ns.filter (·.function == f))
    rw [List.nil_append, List.nil_append] at flat
    rw [List.foldl_cons, ih, find?_putMode, flat, List.append_assoc, ← List.filter_append,
      List.singleton_append]

theorem position_injective : SearchFunction.position.Injective := by
  intro f g
  cases f <;> cases g <;> simp [SearchFunction.position]

theorem foldl_takeIn (u : Capabilities) (cs : List Capabilities) :
    cs.foldl takeIn u =
      { modes := (cs.flatMap (·.modes)).foldl putMode u.modes
        categories := (cs.flatMap (·.categories)).foldl (pushNew (·.id)) u.categories
        limits := ⟨cs.foldl (fun m c => min m c.limits.max) u.limits.max, u.limits.default⟩ } := by
  induction cs generalizing u with
  | nil => rfl
  | cons c cs ih => simp [ih, takeIn]

/-- A merge is what is taken in one member at a time, sorted at the end. -/
theorem merge_eq_sorted_foldl (cs : List Capabilities) :
    merge cs = (cs.foldl takeIn ⟨[], [], Limits.own⟩).sorted := by
  have no_mode : (([] : List SearchMode).map (·.function)).Nodup := List.nodup_nil
  have no_category : (([] : List Category).map Category.id).Nodup := List.nodup_nil
  have functions := nodup_foldl_putMode no_mode (cs.flatMap (·.modes))
  have numbers := nodup_foldl_pushNew no_category (cs.flatMap (·.categories))
  have modes : (merge cs).modes = ((cs.flatMap (·.modes)).foldl putMode []).mergeSort
      fun m n => m.function.position ≤ n.function.position := by
    refine eq_of_find?_eq SearchMode.function SearchFunction.position (pairwise_modes_merge cs)
      (pairwise_mergeSort_key position_injective functions) fun f => ?_
    rw [find?_mergeSort_key functions, find?_foldl_putMode, find?_modes_merge]
    rfl
  have categories : (merge cs).categories
      = ((cs.flatMap (·.categories)).foldl (pushNew Category.id) []).mergeSort
          fun c d => c.id ≤ d.id := by
    refine eq_of_find?_eq Category.id id (ascending_categories_merge cs)
      (pairwise_mergeSort_key Function.injective_id numbers) fun k => ?_
    rw [find?_mergeSort_key numbers, find?_foldl_pushNew, find?_categories_merge]
    rfl
  rw [foldl_takeIn, sorted, ← modes, ← categories]
  rfl

end TorznabGateway.Capabilities
