import Mathlib.Data.List.Forall2
import TorznabGateway.Proofs.Cache.Values
import TorznabGateway.Proofs.Search.Window

/-!
# A search does not look at links

An item with an identifier of its own has a key that is not made from its links, and a query judges
its size and age only. So two searches whose sources send the same items except for their links
accept the same items, cut the same window, and give the same identifiers.

## Main definitions

* `Item.unlinked`: an item without what it says of its links.
* `SeenStore.identities`: what is remembered of items, without their fingerprints.

## Main statements

* `SeenStore.identify_classify`: the identifier of an item depends on identities and its key only.
* `SearchAggregator.consume_of_unlinked`: the two searches fail alike or have results that differ in
  what is issued for the links, and in fingerprints and states.
-/
namespace TorznabGateway

open Time

/-! ## Items without links -/

namespace Item

/-- The item with a link that is the same for all items. -/
def unlinked (i : Item) : Item :=
  { i with link := "-", sourceLink := none }

/-- Whether the link of an item is replaced and its key is not made from the link. -/
structure Concealable (i : Item) : Prop where
  link : i.link ≠ ""
  web : i.isMagnet = false
  localId : i.localId ≠ ""

theorem Concealable.key_unlinked {i : Item} (h : i.Concealable) : i.unlinked.key = i.key := by
  have own : i.localId.isEmpty = false := by simpa using h.localId
  simp [key, localPart, unlinked, own]

/-- Items that are the same without links have the same fields but for the two links. -/
theorem eq_of_unlinked {i j : Item} (h : i.unlinked = j.unlinked) :
    j = { i with link := j.link, sourceLink := j.sourceLink } := by
  cases i
  cases j
  simp_all [unlinked]

end Item

theorem SearchQuery.accepts_unlinked (q : SearchQuery) (now : Moment) (i : Item) :
    q.accepts now i.unlinked = q.accepts now i := rfl

/-! ## Collecting -/

def SourceEvent.unlinked : SourceEvent → SourceEvent
  | .page source items => .page source (items.map Item.unlinked)
  | e => e

def Arrival.unlinked (x : Arrival) : Arrival :=
  { x with event := x.event.unlinked }

namespace Collected

def unlinked (c : Collected) : Collected :=
  { c with items := c.items.map Item.unlinked }

/-- Where links do not matter for acceptance, collecting can be done without them. -/
theorem collect_unlinked {accepts : Nat → Item → Bool} {wanted : Nat}
    (blind : ∀ after i, accepts after i.unlinked = accepts after i) (c : Collected)
    (arriving : List Arrival) :
    collect accepts wanted c.unlinked (arriving.map Arrival.unlinked)
      = (collect accepts wanted c arriving).unlinked := by
  induction arriving generalizing c with
  | nil => rfl
  | cons x rest ih =>
    obtain ⟨after, event⟩ := x
    cases event with
    | page source items =>
      let page := items.filter (accepts after)
      have judged : (items.map Item.unlinked).filter (accepts after)
          = page.map Item.unlinked := by
        rw [List.filter_map]
        exact congrArg _ (List.filter_congr fun i _ => blind after i)
      have added : addPage { c.unlinked with elapsed := after } source (page.map Item.unlinked)
          = (addPage { c with elapsed := after } source page).unlinked := by
        simp [addPage, unlinked]
      rw [List.map_cons, collect, collect]
      dsimp only [Arrival.unlinked, SourceEvent.unlinked]
      rw [judged, added, ih, apply_ite unlinked]
      simp [unlinked, page]
    | failed source error => exact ih (addFailure { c with elapsed := after } source error)
    | done source pages => exact ih { c with elapsed := after }

end Collected

/-! ## Identities -/

namespace SeenStore

/-- The identifiers of the items that are remembered, and the number that was issued. -/
def identities (s : SeenStore) : TtlCache String Uuid × Nat :=
  (s.sightings.mapValues (·.uuid), s.issued)

/-- The identifier for a key: the one that is remembered, or the next of the supply. -/
def identify (ids : Nat → Uuid) (known : TtlCache String Uuid × Nat) (now : Nat) (key : String) :
    Uuid × TtlCache String Uuid × Nat :=
  let (last, cache) := known.1.get now key
  match last with
  | none => (ids (known.2 + 1), cache.add now key (ids (known.2 + 1)), known.2 + 1)
  | some uuid => (uuid, cache.add now key uuid, known.2)

/-- Fingerprints have no part in which identifier an item gets, and which are remembered. -/
theorem identify_classify (ids : Nat → Uuid) (s : SeenStore) (now : Nat) (i : Item) :
    identify ids s.identities now i.key
      = ((s.classify ids now i).1, (s.classify ids now i).2.2.identities) := by
  rw [identify, classify, identities]
  dsimp only
  rw [TtlCache.get_mapValues]
  cases (s.sightings.get now i.key).1 with
  | none => simp [identities, ← TtlCache.add_mapValues]
  | some seen => simp [identities, ← TtlCache.add_mapValues]

end SeenStore

/-! ## Two searches -/

/-- Whether two items differ in their links only, and each is concealable. -/
structure Item.SameButLinks (i j : Item) : Prop where
  unlinked : i.unlinked = j.unlinked
  left : i.Concealable
  right : j.Concealable

theorem Item.forall₂_sameButLinks {xs ys : List Item}
    (same : xs.map Item.unlinked = ys.map Item.unlinked) (left : ∀ i ∈ xs, i.Concealable)
    (right : ∀ i ∈ ys, i.Concealable) : List.Forall₂ SameButLinks xs ys := by
  induction xs generalizing ys with
  | nil =>
    obtain rfl := List.map_eq_nil_iff.1 same.symm
    exact .nil
  | cons i xs ih =>
    obtain ⟨j, ys, rfl, head, tail⟩ := List.map_eq_cons_iff.1 same.symm
    rw [List.forall_mem_cons] at left right
    exact .cons ⟨head.symm, left.1, right.1⟩ (ih tail.symm left.2 right.2)

/-- Whether two entries have one identifier and were issued for items that differ in their links
only. -/
structure TrackedItem.IssuedAlike (issuer : LinkIssuer) (t u : TrackedItem) : Prop where
  uuid : t.uuid = u.uuid
  items : ∃ i j, i.SameButLinks j ∧ t.item = (issuer.issue i).1 ∧ u.item = (issuer.issue j).1

/-- Whether what arrives at two searches differs in the links of items only, and the items are
concealable. -/
structure Arrival.SameButLinks (arriving arriving' : List Arrival) : Prop where
  unlinked : arriving.map Arrival.unlinked = arriving'.map Arrival.unlinked
  concealable : ∀ x ∈ arriving ++ arriving', ∀ i ∈ x.event.page?.getD [], i.Concealable

/-- Whether two searches failed with one error, or have results whose entries were issued alike. -/
def AggregateOutcome.IssuedAlike (issuer : LinkIssuer) (o o' : AggregateOutcome) : Prop :=
  (∃ e, o.result = .error e ∧ o'.result = .error e)
    ∨ ∃ r r', o.result = .ok r ∧ o'.result = .ok r'
      ∧ List.Forall₂ (TrackedItem.IssuedAlike issuer) r.items r'.items

theorem Tracked.foldl_add_alike {ids : Nat → Uuid} {issuer : LinkIssuer} {now : Nat}
    {w w' : List Item} (same : List.Forall₂ Item.SameButLinks w w') {t t' : Tracked}
    (seen : t.seen.identities = t'.seen.identities)
    (items : List.Forall₂ (TrackedItem.IssuedAlike issuer) t.items t'.items) :
    List.Forall₂ (TrackedItem.IssuedAlike issuer) (w.foldl (Tracked.add ids issuer now) t).items
      (w'.foldl (Tracked.add ids issuer now) t').items := by
  induction same generalizing t t' with
  | nil => exact items
  | @cons i j rest rest' same _ ih =>
    have key : i.key = j.key := by
      rw [← same.left.key_unlinked, same.unlinked, same.right.key_unlinked]
    have known := SeenStore.identify_classify ids t.seen now i
    rw [key, seen, SeenStore.identify_classify, Prod.mk.injEq] at known
    refine ih known.2.symm ?_
    exact List.rel_append items (.cons ⟨known.1.symm, i, j, same, rfl, rfl⟩ .nil)

namespace SearchAggregator

variable {a : SearchAggregator} {wall : Nat → Moment} {sources now : Nat} {q : SearchQuery}

theorem concealable_of_mem_window {arriving : List Arrival}
    (h : ∀ x ∈ arriving, ∀ i ∈ x.event.page?.getD [], i.Concealable) :
    ∀ i ∈ window wall now q arriving, i.Concealable := by
  intro i hi
  have accepted := List.mem_of_mem_drop (List.mem_of_mem_take hi)
  obtain ⟨x, hx, hi⟩ := List.mem_flatMap.1 accepted
  exact h x hx i (List.mem_of_mem_filter hi)

variable {arriving arriving' : List Arrival} (h : Arrival.SameButLinks arriving arriving')

include h

theorem collected_agrees (wall : Nat → Moment) (now : Nat) (q : SearchQuery) :
    (collected wall now q arriving).items.map Item.unlinked
        = (collected wall now q arriving').items.map Item.unlinked
      ∧ (collected wall now q arriving).errors = (collected wall now q arriving').errors
      ∧ (collected wall now q arriving).elapsed = (collected wall now q arriving').elapsed := by
  have blind after i : q.acceptsAfter wall now after i.unlinked = q.acceptsAfter wall now after i :=
    q.accepts_unlinked _ i
  have same : (collected wall now q arriving).unlinked
      = (collected wall now q arriving').unlinked := by
    rw [collected, collected, ← Collected.collect_unlinked blind, h.unlinked,
      Collected.collect_unlinked blind]
  exact ⟨congrArg Collected.items same, (congrArg Collected.errors same :),
    (congrArg Collected.elapsed same :)⟩

theorem forall₂_window : List.Forall₂ Item.SameButLinks (window wall now q arriving)
    (window wall now q arriving') := by
  obtain ⟨items, -, -⟩ := collected_agrees h wall now q
  refine Item.forall₂_sameButLinks ?_ ?_ ?_
  · rw [window, window, ← Collected.window_collect, ← Collected.window_collect, List.map_take,
      List.map_drop, List.map_take, List.map_drop, ← collected, ← collected, items]
  · exact concealable_of_mem_window fun x hx => h.concealable x (List.mem_append_left _ hx)
  · exact concealable_of_mem_window fun x hx => h.concealable x (List.mem_append_right _ hx)

/-- The search fails with the same error, or has results whose entries were issued alike. -/
theorem consume_of_unlinked (a : SearchAggregator) (wall : Nat → Moment) (sources now : Nat)
    (q : SearchQuery) (seen : SeenStore) :
    (a.consume wall sources now q seen arriving).IssuedAlike a.issuer
      (a.consume wall sources now q seen arriving') := by
  obtain ⟨items, errors, elapsed⟩ := collected_agrees h wall now q
  have empty : (collected wall now q arriving).items = []
      ↔ (collected wall now q arriving').items = [] := by
    rw [← List.map_eq_nil_iff, items, List.map_eq_nil_iff]
  have alike : NothingKept wall sources now q arriving
      ↔ NothingKept wall sources now q arriving' := by
    rw [NothingKept, NothingKept, errors, empty]
  by_cases failed : NothingKept wall sources now q arriving
  · rw [consume_of_nothingKept a seen failed, consume_of_nothingKept a seen (alike.1 failed)]
    exact .inl ⟨_, rfl, by rw [errors]⟩
  · rw [consume_of_not_nothingKept a seen failed, consume_of_not_nothingKept a seen
      (mt alike.2 failed)]
    refine .inr ⟨_, _, rfl, rfl, ?_⟩
    rw [tracked, tracked, elapsed]
    exact Tracked.foldl_add_alike (forall₂_window h) rfl .nil

end SearchAggregator

/-! ## Searches over sources -/

/-- The step with its items without links. -/
def TimedStep.unlinked (s : TimedStep) : TimedStep :=
  { s with step := s.step.map (List.map Item.unlinked) }

namespace Arrival

theorem map_unlinked_ofSteps (source : String) (budget served time : Nat) (steps : List TimedStep) :
    (ofSteps source budget served time steps).map unlinked
      = ofSteps source budget served time (steps.map TimedStep.unlinked) := by
  fun_induction ofSteps source budget served time steps with
  | case1 => rfl
  | case2 served time s rest left items page ih =>
    simp only [List.map_cons, ofSteps, if_pos left, TimedStep.unlinked, page, ih]
    rfl
  | case3 served time s rest left e error =>
    simp only [List.map_cons, ofSteps, if_pos left, TimedStep.unlinked, error]
    rfl
  | case4 served time s rest spent => simp [ofSteps, if_neg spent, unlinked, SourceEvent.unlinked]

theorem map_unlinked_ofAnswer (source : String) (budget : Nat) (answer : SearchAnswer) :
    (ofAnswer source budget answer).map unlinked
      = ofAnswer source budget (answer.map (List.map TimedStep.unlinked)) := by
  cases answer with
  | error e => rfl
  | ok steps => exact map_unlinked_ofSteps source budget 0 0 steps

theorem map_unlinked_interleave (sources : List (List Arrival)) :
    (interleave sources).map unlinked = interleave (sources.map (List.map unlinked)) := by
  have kept : ∀ x ∈ sources.flatten, ∀ y ∈ sources.flatten,
      notAfter x y = notAfter x.unlinked y.unlinked := fun _ _ _ _ => rfl
  rw [interleave, interleave, List.map_mergeSort kept, List.map_flatten]

end Arrival

namespace SearchAggregator

variable {a : SearchAggregator} {now : Nat} {q : SearchQuery} {indexers indexers' : List Indexer}

/-- Whether two lists of indexers answer a search with the same items except for their links, and
the items that the search takes from them are concealable. -/
structure SameSources (a : SearchAggregator) (now : Nat) (q : SearchQuery)
    (indexers indexers' : List Indexer) : Prop where
  unlinked : (indexers.map fun i => (i.name, (i.search now q).map (List.map TimedStep.unlinked)))
    = indexers'.map fun i => (i.name, (i.search now q).map (List.map TimedStep.unlinked))
  concealable : ∀ i ∈ indexers ++ indexers',
    ∀ page ∈ contribution (a.pageBudget q) (i.search now q), ∀ item ∈ page, item.Concealable

theorem map_unlinked_arrivals : (a.arrivals indexers now q).map Arrival.unlinked
    = Arrival.interleave ((indexers.map fun i =>
        (i.name, (i.search now q).map (List.map TimedStep.unlinked))).map fun (name, answer) =>
          Arrival.ofAnswer name (a.pageBudget q) answer) := by
  rw [arrivals, Arrival.map_unlinked_interleave, List.map_map, List.map_map]
  congr 1
  exact List.map_congr_left fun i _ => Arrival.map_unlinked_ofAnswer _ _ _

theorem concealable_of_mem_arrivals (h : ∀ i ∈ indexers,
      ∀ page ∈ contribution (a.pageBudget q) (i.search now q), ∀ item ∈ page, item.Concealable) :
    ∀ x ∈ a.arrivals indexers now q, ∀ item ∈ x.event.page?.getD [], item.Concealable := by
  intro x hx item hi
  obtain ⟨sent, hs, hx⟩ := List.mem_flatten.1 ((List.mergeSort_perm _ _).mem_iff.1 hx)
  obtain ⟨i, hi', rfl⟩ := List.mem_map.1 hs
  cases page : x.event.page? with
  | none => simp [page] at hi
  | some items =>
    rw [page] at hi
    refine h i hi' items ?_ item hi
    rw [← Arrival.pages_ofAnswer i.name]
    exact List.mem_filterMap.2 ⟨x, hx, page⟩

theorem SameSources.arrivals (h : a.SameSources now q indexers indexers') :
    Arrival.SameButLinks (a.arrivals indexers now q) (a.arrivals indexers' now q) where
  unlinked := by rw [map_unlinked_arrivals, map_unlinked_arrivals, h.unlinked]
  concealable := by
    intro x hx
    rcases List.mem_append.1 hx with hx | hx
    · exact concealable_of_mem_arrivals
        (fun i hi => h.concealable i (List.mem_append_left _ hi)) x hx
    · exact concealable_of_mem_arrivals
        (fun i hi => h.concealable i (List.mem_append_right _ hi)) x hx

theorem search_of_unlinked (h : a.SameSources now q indexers indexers') (wall : Nat → Moment)
    (seen : SeenStore) :
    (a.search wall indexers now q seen).IssuedAlike a.issuer
      (a.search wall indexers' now q seen) := by
  have length : indexers.length = indexers'.length := by
    simpa using congrArg List.length h.unlinked
  cases indexers with
  | nil =>
    obtain rfl := List.length_eq_zero_iff.1 length.symm
    exact .inl ⟨.noSources, rfl, rfl⟩
  | cons i rest =>
    cases indexers' with
    | nil => cases length
    | cons j rest' =>
      rw [search, search, if_neg (by simp), if_neg (by simp), length]
      exact consume_of_unlinked h.arrivals a wall _ now q seen

end SearchAggregator

end TorznabGateway
