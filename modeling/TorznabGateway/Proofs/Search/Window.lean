import TorznabGateway.Indexer.Scripted
import TorznabGateway.Proofs.Search.Delivery
import TorznabGateway.Search.Sample

/-!
# The window of a search

A search stops looking at arrivals once it holds enough items for its offset and limit. What it
stopped before cannot matter: the items held then are the first of those that all arrivals would
have given, and the window lies within them.

## Main definitions

* `acceptedItems`: everything a query accepts of what arrives, nothing left out.
* `Collected.StopsAfter`: the part of what arrives that is looked at.
* `SearchAggregator.window`: the accepted items between offset and limit.
* `SearchAggregator.collected`, `SearchAggregator.tracked`: what a search collects and tracks.

## Main statements

* `Collected.exists_stopsAfter`: collecting looks at the shortest part at the front that is enough.
* `SearchAggregator.items_eq_window`: the items of a search are its window, for every possible order
  of arrival.
* `SearchAggregator.result_consume_eq_ok_iff`, `SearchAggregator.result_consume_eq_error_iff`: which
  results a search has, and when.
-/
namespace TorznabGateway

open Time

/-- The items of all arrivals that are accepted when they arrive. -/
def acceptedItems (accepts : Nat → Item → Bool) (arriving : List Arrival) : List Item :=
  arriving.flatMap fun x => (x.event.page?.getD []).filter (accepts x.after)

/-- Whether a query that started at time `now` accepts an item that arrives after some time. -/
def SearchQuery.acceptsAfter (q : SearchQuery) (wall : Nat → Moment) (now after : Nat)
    (i : Item) : Bool :=
  q.accepts (wall (now + after)) i

/-! ## Collecting with and without an end -/

namespace Collected

/-- Take one arrival into account. -/
def look (accepts : Nat → Item → Bool) (c : Collected) (x : Arrival) : Collected :=
  let c := { c with elapsed := x.after }
  match x.event with
  | .page source items => c.addPage source (items.filter (accepts x.after))
  | .failed source error => c.addFailure source error
  | .done _ _ => c

theorem items_look (accepts : Nat → Item → Bool) (c : Collected) (x : Arrival) :
    (look accepts c x).items
      = c.items ++ (x.event.page?.getD []).filter (accepts x.after) := by
  unfold look
  split <;> simp_all [addPage, addFailure, SourceEvent.page?]

theorem items_foldl_look (accepts : Nat → Item → Bool) (c : Collected) (arriving : List Arrival) :
    (arriving.foldl (look accepts) c).items = c.items ++ acceptedItems accepts arriving := by
  induction arriving generalizing c with
  | nil => simp [acceptedItems]
  | cons x rest ih => rw [List.foldl_cons, ih, items_look]; simp [acceptedItems]

/-- Whether arrivals end with a page and hold enough accepted items. -/
def Enough (accepts : Nat → Item → Bool) (wanted : Nat) (looked : List Arrival) : Prop :=
  (∃ x ∈ looked.getLast?, x.event.page?.isSome) ∧ wanted ≤ (acceptedItems accepts looked).length

/-- Whether `looked` is what is looked at of what arrives: the shortest part at the front that is
enough, or everything if no part is. -/
structure StopsAfter (accepts : Nat → Item → Bool) (wanted : Nat)
    (arriving looked : List Arrival) : Prop where
  front : looked <+: arriving
  ends : Enough accepts wanted looked ∨ looked = arriving
  least : ∀ part, part <+: arriving → Enough accepts wanted part → looked <+: part

section

variable {accepts : Nat → Item → Bool} {wanted : Nat} {x : Arrival}
  {rest arriving looked looked' : List Arrival}

/-- Only one part is looked at. -/
theorem StopsAfter.unique (h : StopsAfter accepts wanted arriving looked)
    (h' : StopsAfter accepts wanted arriving looked') : looked = looked' := by
  have within : looked <+: looked' := by
    rcases h'.ends with enough | rfl
    · exact h.least _ h'.front enough
    · exact h.front
  have within' : looked' <+: looked := by
    rcases h.ends with enough | rfl
    · exact h'.least _ h.front enough
    · exact h'.front
  exact within.eq_of_length_le within'.length_le

/-- Of what is looked at, all is looked at. -/
theorem StopsAfter.self (h : StopsAfter accepts wanted arriving looked) :
    StopsAfter accepts wanted looked looked :=
  ⟨List.prefix_rfl, .inr rfl, fun part front => h.least part (front.trans h.front)⟩

theorem Enough.ne_nil (h : Enough accepts wanted looked) : looked ≠ [] := by
  rintro rfl
  simp [Enough] at h

theorem enough_singleton_iff :
    Enough accepts wanted [x]
      ↔ x.event.page?.isSome ∧ wanted ≤ (acceptedItems accepts [x]).length := by
  simp [Enough]

/-- What is accepted of an arrival in front of others need not be held by them. -/
theorem enough_cons_iff (more : rest ≠ []) :
    Enough accepts wanted (x :: rest)
      ↔ Enough accepts (wanted - (acceptedItems accepts [x]).length) rest := by
  have split : acceptedItems accepts (x :: rest)
      = acceptedItems accepts [x] ++ acceptedItems accepts rest := by simp [acceptedItems]
  rw [Enough, Enough, List.getLast?_cons_of_ne_nil more, split, List.length_append]
  grind

theorem StopsAfter.singleton (enough : Enough accepts wanted [x]) (rest : List Arrival) :
    StopsAfter accepts wanted (x :: rest) [x] := by
  refine ⟨⟨rest, rfl⟩, .inl enough, ?_⟩
  intro part front enough
  obtain ⟨y, part, rfl⟩ := List.exists_cons_of_ne_nil enough.ne_nil
  obtain ⟨rfl, -⟩ := List.cons_prefix_cons.1 front
  exact ⟨part, rfl⟩

theorem StopsAfter.cons (go : ¬Enough accepts wanted [x])
    (h : StopsAfter accepts (wanted - (acceptedItems accepts [x]).length) rest looked) :
    StopsAfter accepts wanted (x :: rest) (x :: looked) := by
  refine ⟨List.cons_prefix_cons.2 ⟨rfl, h.front⟩, ?_, ?_⟩
  · rcases h.ends with enough | rfl
    · exact .inl ((enough_cons_iff enough.ne_nil).2 enough)
    · exact .inr rfl
  · intro part front enough
    obtain ⟨y, part, rfl⟩ := List.exists_cons_of_ne_nil enough.ne_nil
    obtain ⟨rfl, tail⟩ := List.cons_prefix_cons.1 front
    have more : part ≠ [] := by
      rintro rfl
      exact go enough
    have least : looked <+: part := h.least part tail ((enough_cons_iff more).1 enough)
    exact List.cons_prefix_cons.2 ⟨rfl, least⟩

end

/-- After one arrival collecting stops, if it was a page that made the items enough, or goes on. -/
theorem collect_cons (accepts : Nat → Item → Bool) (wanted : Nat) (c : Collected) (x : Arrival)
    (rest : List Arrival) :
    collect accepts wanted c (x :: rest) =
      if x.event.page?.isSome ∧ wanted ≤ (look accepts c x).items.length then look accepts c x
      else collect accepts wanted (look accepts c x) rest := by
  rw [collect, look]
  cases x.event <;> simp [SourceEvent.page?]

/-- Collecting looks at the shortest part at the front that makes the items enough, and at nothing
else. -/
theorem exists_stopsAfter (accepts : Nat → Item → Bool) (wanted : Nat) (c : Collected)
    (arriving : List Arrival) :
    ∃ looked, StopsAfter accepts (wanted - c.items.length) arriving looked
      ∧ collect accepts wanted c arriving = looked.foldl (look accepts) c := by
  induction arriving generalizing c with
  | nil => exact ⟨[], ⟨List.prefix_rfl, .inr rfl, fun _ _ _ => List.nil_prefix⟩, rfl⟩
  | cons x rest ih =>
    have held : (look accepts c x).items.length
        = c.items.length + (acceptedItems accepts [x]).length := by
      simp [items_look, acceptedItems]
    have one : Enough accepts (wanted - c.items.length) [x]
        ↔ x.event.page?.isSome ∧ wanted ≤ (look accepts c x).items.length := by
      rw [enough_singleton_iff, held, Nat.sub_le_iff_le_add']
    rw [collect_cons]
    by_cases stop : x.event.page?.isSome ∧ wanted ≤ (look accepts c x).items.length
    · rw [if_pos stop]
      exact ⟨[x], .singleton (one.2 stop) rest, rfl⟩
    · rw [if_neg stop]
      obtain ⟨looked, stops, fold⟩ := ih (look accepts c x)
      rw [held, Nat.sub_add_eq] at stops
      exact ⟨x :: looked, stops.cons (mt one.1 stop), fold⟩

/-- Stopping with enough items does not change the window. -/
theorem window_collect (accepts : Nat → Item → Bool) (offset limit : Nat)
    (arriving : List Arrival) :
    ((collect accepts (offset + limit) {} arriving).items.drop offset).take limit
      = ((acceptedItems accepts arriving).drop offset).take limit := by
  obtain ⟨looked, ⟨⟨rest, split⟩, ends, -⟩, fold⟩ :=
    exists_stopsAfter accepts (offset + limit) {} arriving
  have held : (collect accepts (offset + limit) {} arriving).items
      = acceptedItems accepts looked := by
    rw [fold, items_foldl_look, List.nil_append]
  have all : acceptedItems accepts arriving
      = acceptedItems accepts looked ++ acceptedItems accepts rest := by
    rw [← split, acceptedItems, List.flatMap_append]; rfl
  rw [held]
  rcases ends with ⟨-, enough⟩ | rfl
  · have enough : offset + limit ≤ (acceptedItems accepts looked).length := enough
    have reach : limit ≤ ((acceptedItems accepts looked).drop offset).length := by
      rw [List.length_drop]; omega
    rw [all, List.drop_append_of_le_length (by omega), List.take_append_of_le_length reach]
  · rfl

end Collected

/-- Tracking adds one entry for every item, in order, with the item's link replaced. -/
theorem Tracked.items_foldl_add (ids : Nat → Uuid) (issuer : LinkIssuer) (now : Nat) (t : Tracked)
    (items : List Item) :
    (items.foldl (Tracked.add ids issuer now) t).items.map (·.item)
      = t.items.map (·.item) ++ items.map fun i => (issuer.issue i).1 := by
  induction items generalizing t with
  | nil => simp
  | cons i rest ih => rw [List.foldl_cons, ih]; simp [Tracked.add]

/-- Counting adds, for every state, the number of the items in it. -/
theorem SearchStats.foldl_count (s : SearchStats) (items : List TrackedItem) :
    items.foldl (fun s i => s.count i.state) s =
      { s with
        new := s.new + items.countP (·.state = .new)
        updated := s.updated + items.countP (·.state = .updated)
        unchanged := s.unchanged + items.countP (·.state = .unchanged) } := by
  induction items generalizing s with
  | nil => rfl
  | cons i rest ih =>
    rw [List.foldl_cons, ih]
    cases state : i.state <;> simp [count, state, Nat.add_assoc, Nat.add_comm 1]

/-! ## The items of a search -/

namespace SearchAggregator

/-- The accepted items behind the offset of a query, up to its limit, of all that arrives. -/
def window (wall : Nat → Moment) (now : Nat) (q : SearchQuery) (arriving : List Arrival) :
    List Item :=
  ((acceptedItems (q.acceptsAfter wall now) arriving).drop q.offset).take q.effectiveLimit

/-- What a search collects of its arrivals. -/
def collected (wall : Nat → Moment) (now : Nat) (q : SearchQuery) (arriving : List Arrival) :
    Collected :=
  .collect (q.acceptsAfter wall now) (q.offset + q.effectiveLimit) {} arriving

/-- What a search tracks: its window, compared with earlier sightings when the search ends. -/
def tracked (a : SearchAggregator) (wall : Nat → Moment) (now : Nat) (q : SearchQuery)
    (seen : SeenStore) (arriving : List Arrival) : Tracked :=
  (window wall now q arriving).foldl
    (Tracked.add a.ids a.issuer (now + (collected wall now q arriving).elapsed)) { seen }

/-- Whether as many sources failed as there are and nothing was collected. -/
def NothingKept (wall : Nat → Moment) (sources now : Nat) (q : SearchQuery)
    (arriving : List Arrival) : Prop :=
  (collected wall now q arriving).errors.length = sources
    ∧ (collected wall now q arriving).items = []

section

variable {wall : Nat → Moment} {sources now : Nat} {q : SearchQuery} {arriving : List Arrival}

/-- What a search does with its arrivals depends on what it collects of them. -/
theorem consume_congr (a : SearchAggregator) (seen : SeenStore) {arriving' : List Arrival}
    (same : collected wall now q arriving = collected wall now q arriving') :
    a.consume wall sources now q seen arriving = a.consume wall sources now q seen arriving' := by
  have collects : Collected.collect (fun after i => q.accepts (wall (now + after)) i)
      (q.offset + q.effectiveLimit) {} arriving
        = Collected.collect (fun after i => q.accepts (wall (now + after)) i)
          (q.offset + q.effectiveLimit) {} arriving' := same
  rw [consume, collects, consume]

theorem consume_of_nothingKept (a : SearchAggregator) (seen : SeenStore)
    (failed : NothingKept wall sources now q arriving) :
    a.consume wall sources now q seen arriving =
      let c := collected wall now q arriving
      { result := .error (.allSourcesFailed c.errors)
        seen
        elapsed := c.elapsed
        pagesTaken := c.perSource.map fun (name, t) => (name, t.pages)
        observed := c.observed ++ c.perSource.map (fun (name, t) => .sourceItems name t.accepted)
          ++ [.searched .allFailed] } :=
  if_pos failed

/-- A search that kept something tracks its window. -/
theorem consume_of_not_nothingKept (a : SearchAggregator) (seen : SeenStore)
    (kept : ¬NothingKept wall sources now q arriving) :
    a.consume wall sources now q seen arriving =
      let c := collected wall now q arriving
      let t := a.tracked wall now q seen arriving
      { result := .ok
          { items := t.items
            sourceErrors := c.errors
            stats := t.items.foldl (fun s i => s.count i.state)
              { pages := c.pages, sourcesFailed := c.errors.length } }
        seen := t.seen
        elapsed := c.elapsed
        pagesTaken := c.perSource.map fun (name, t) => (name, t.pages)
        observed := c.observed ++ c.perSource.map (fun (name, t) => .sourceItems name t.accepted)
          ++ t.observed ++ [.searched (if c.errors.isEmpty then .success else .someFailed)] } := by
  rw [tracked, window, ← Collected.window_collect]
  exact if_neg kept

/-- A search fails if and only if it kept nothing, and then with the errors that it collected. -/
theorem result_consume_eq_error_iff {a : SearchAggregator} {seen : SeenStore}
    {e : AggregateError} : (a.consume wall sources now q seen arriving).result = .error e
      ↔ NothingKept wall sources now q arriving
        ∧ e = .allSourcesFailed (collected wall now q arriving).errors := by
  by_cases failed : NothingKept wall sources now q arriving
  · rw [consume_of_nothingKept a seen failed]
    simp [failed, eq_comm]
  · rw [consume_of_not_nothingKept a seen failed]
    simp [failed]

/-- A search that has a result kept something, and the result is made of what it collected and
tracked. -/
theorem result_consume_eq_ok_iff {a : SearchAggregator} {seen : SeenStore} {r : AggregateResult} :
    (a.consume wall sources now q seen arriving).result = .ok r
      ↔ ¬NothingKept wall sources now q arriving
        ∧ r.items = (a.tracked wall now q seen arriving).items
        ∧ r.sourceErrors = (collected wall now q arriving).errors
        ∧ r.stats =
          { pages := (collected wall now q arriving).pages
            new := r.items.countP (·.state = .new)
            updated := r.items.countP (·.state = .updated)
            unchanged := r.items.countP (·.state = .unchanged)
            sourcesFailed := (collected wall now q arriving).errors.length } := by
  by_cases failed : NothingKept wall sources now q arriving
  · rw [consume_of_nothingKept a seen failed]
    simp [failed]
  · rw [consume_of_not_nothingKept a seen failed]
    obtain ⟨items, errors, stats⟩ := r
    simp only [SearchStats.foldl_count, Except.ok.injEq, AggregateResult.mk.injEq]
    grind

/-- A search that has a result tracked the window of what it collected. -/
theorem items_of_consume {a : SearchAggregator} {seen : SeenStore} {r : AggregateResult}
    (h : (a.consume wall sources now q seen arriving).result = .ok r) :
    r.items = ((window wall now q arriving).foldl (Tracked.add a.ids a.issuer
      (now + (a.consume wall sources now q seen arriving).elapsed)) { seen }).items := by
  obtain ⟨kept, items, -⟩ := result_consume_eq_ok_iff.1 h
  rw [consume_of_not_nothingKept a seen kept]
  exact items

/-- What is collected holds the window. -/
theorem window_eq_of_items {items : List Item}
    (held : (collected wall now q arriving).items = items) :
    window wall now q arriving = (items.drop q.offset).take q.effectiveLimit := by
  rw [window, ← Collected.window_collect, ← held]
  rfl

end

/-- In every possible order of arrival, the items of a search are the window of everything that
arrives, each compared with earlier sightings and its link replaced. Of every source there arrive
the pages before its first error, up to the page budget, in their order. A search with sources
takes what they send in one such order, that of time. -/
theorem items_eq_window (a : SearchAggregator) (wall : Nat → Moment) {indexers : List Indexer}
    {now : Nat} {q : SearchQuery} (seen : SeenStore) (distinct : (indexers.map (·.name)).Nodup) :
    (∀ arriving, a.Delivers indexers now q arriving →
      (∀ i ∈ indexers, (arriving.filter (·.event.source = i.name)).filterMap (·.event.page?)
        = contribution (max (q.maxPages.getD a.maxPages) 1) (i.search now q))
      ∧ ∀ r, (a.consume wall indexers.length now q seen arriving).result = .ok r →
        r.items = ((window wall now q arriving).foldl (Tracked.add a.ids a.issuer
          (now + (a.consume wall indexers.length now q seen arriving).elapsed)) { seen }).items
        ∧ r.items.map (·.item) = (window wall now q arriving).map fun i => (a.issuer.issue i).1)
    ∧ (indexers ≠ [] → (∀ i ∈ indexers, TimedInOrder (i.search now q)) →
      a.Delivers indexers now q (a.arrivals indexers now q)
      ∧ a.search wall indexers now q seen
        = a.consume wall indexers.length now q seen (a.arrivals indexers now q)) := by
  refine ⟨fun arriving possible => ⟨fun i hi => possible.pages_eq hi, fun r hr => ?_⟩,
    fun some_source timed => ⟨delivers_arrivals distinct timed, ?_⟩⟩
  · have items := items_of_consume hr
    refine ⟨items, ?_⟩
    rw [items, Tracked.items_foldl_add, List.map_nil, List.nil_append]
  · rw [search, if_neg (by simpa using some_source)]

/-- A source that fails after its first page, and one that has more pages than two. The second item
of the latter is empty. -/
def sampleSources : List Indexer :=
  [({ name := "a"
      steps := [.ok [Sample.webItem "a" "1" "A1"], .error .timeout] } : Script).toIndexer,
   ({ name := "b"
      steps := [.ok [Sample.webItem "b" "1" "B1", { Sample.webItem "b" "2" "B2" with size := 0 }],
        .ok [Sample.webItem "b" "3" "B3"], .ok [Sample.webItem "b" "4" "B4"]] } : Script).toIndexer]

/-- The second of the accepted items is the answer although it comes from the other source, an item
before it is too small, and a failure and a page are still to come. -/
theorem items_eq_window_sample :
    let a : SearchAggregator :=
      { issuer := .new "http://nab.example" ⟨[1], .random⟩, ids := default }
    let q : SearchQuery :=
      { function := .search, limit := some 1, offset := 1, maxPages := some 2, minSize := some 1 }
    let arriving : List Arrival :=
      [⟨5, .page "b" [Sample.webItem "b" "1" "B1", { Sample.webItem "b" "2" "B2" with size := 0 }]⟩,
       ⟨7, .page "a" [Sample.webItem "a" "1" "A1"]⟩, ⟨7, .failed "a" .timeout⟩,
       ⟨9, .page "b" [Sample.webItem "b" "3" "B3"]⟩, ⟨9, .done "b" 2⟩]
    a.Delivers sampleSources 0 q arriving
      ∧ ∃ r, (a.consume (fun _ => Sample.published) 2 0 q (.new 1 1) arriving).result = .ok r
        ∧ r.items.map (·.item.title) = ["A1"] := by
  intro a q arriving
  have possible : a.Delivers sampleSources 0 q arriving := by
    constructor
    · decide
    · simp only [sampleSources, List.forall_mem_cons]
      exact ⟨rfl, rfl, by simp⟩
  obtain ⟨-, items⟩ :=
    (items_eq_window a (fun _ => Sample.published) (.new 1 1) (by decide)).1 arriving possible
  refine ⟨possible, _, rfl, ?_⟩
  have titles := congrArg (List.map Item.title) (items _ rfl).2
  rw [List.map_map] at titles
  exact titles.trans rfl

end SearchAggregator

end TorznabGateway
