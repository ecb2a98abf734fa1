import Mathlib.Algebra.Order.BigOperators.Group.List
import Mathlib.Algebra.Order.Group.Nat
import Mathlib.Data.List.Nodup
import TorznabGateway.Proofs.Search.Window

/-!
# Failures of sources

A search looks at the shortest part of what arrives that holds enough accepted items. The pages that
it counts and the failures that it reports are those of this part. It fails itself only if every
source failed in this part and no page of it had an accepted item; otherwise it keeps what was
accepted, that of failing sources too.

## Main definitions

* `Arrival.pages`, `Arrival.failures`: the pages and the failures among arrivals.
* `AllFailed`: whether nothing but failures came of all sources.

## Main statements

* `SearchAggregator.Delivers.exists_looked`: the errors of a search are the failures that it looked
  at.
* `SearchAggregator.fails_iff_allFailed`: when a search fails, and what it keeps when it does not.
* `SearchAggregator.reports_looked`: what a search consumes and what it reports of it.
-/
namespace TorznabGateway

open Time

/-! ## Pages and failures -/

namespace Arrival

/-- The pages among arrivals. -/
def pages (arriving : List Arrival) : List (List Item) :=
  arriving.filterMap (·.event.page?)

/-- The failures among arrivals, under the names of their sources. -/
def failures (arriving : List Arrival) : Named IndexerError :=
  arriving.filterMap (·.event.failure?)

theorem pages_cons (x : Arrival) (rest : List Arrival) :
    pages (x :: rest) = x.event.page?.toList ++ pages rest := by
  rw [pages, List.filterMap_cons]
  cases x.event.page? <;> rfl

theorem failures_cons (x : Arrival) (rest : List Arrival) :
    failures (x :: rest) = x.event.failure?.toList ++ failures rest := by
  rw [failures, List.filterMap_cons]
  cases x.event.failure? <;> rfl

theorem mem_failures_iff {arriving : List Arrival} {source : String} {error : IndexerError} :
    (source, error) ∈ failures arriving ↔ ∃ x ∈ arriving, x.event = .failed source error := by
  have event (e : SourceEvent) :
      e.failure? = some (source, error) ↔ e = .failed source error := by
    cases e <;> simp [SourceEvent.failure?]
  simp [failures, event]

theorem sublist_failures {looked arriving : List Arrival} (front : looked <+: arriving) :
    (failures looked).Sublist (failures arriving) :=
  front.sublist.filterMap _

end Arrival

/-- The texts of errors, under the names of their sources. -/
def messages (errors : Named IndexerError) : Named String :=
  errors.map fun (source, error) => (source, error.message)

theorem mem_messages_iff {errors : Named IndexerError} {source text : String} :
    (source, text) ∈ messages errors ↔ ∃ e, (source, e) ∈ errors ∧ e.message = text := by
  rw [messages, List.mem_map]
  constructor
  · rintro ⟨⟨source, e⟩, member, same⟩
    cases same
    exact ⟨e, member, rfl⟩
  · rintro ⟨e, member, rfl⟩
    exact ⟨(source, e), member, rfl⟩

/-- The failures that a search reports, be it with its result or in its error. -/
def AggregateOutcome.reported (o : AggregateOutcome) : Named IndexerError :=
  match o.result with
  | .ok r => r.sourceErrors
  | .error (.allSourcesFailed errors) => errors
  | .error .noSources => []

namespace Collected

variable {accepts : Nat → Item → Bool} {c : Collected} {looked : List Arrival}

theorem pages_foldl_look :
    (looked.foldl (look accepts) c).pages = c.pages + (Arrival.pages looked).length := by
  induction looked generalizing c with
  | nil => rfl
  | cons x rest ih =>
    have step : (look accepts c x).pages = c.pages + x.event.page?.toList.length := by
      unfold look
      cases x.event <;> rfl
    rw [List.foldl_cons, ih, step, Arrival.pages_cons, List.length_append, Nat.add_assoc]

/-- Failures of different sources are kept in the order of their arrival. -/
theorem errors_foldl_look
    (distinct : ((c.errors ++ Arrival.failures looked).map Prod.fst).Nodup) :
    (looked.foldl (look accepts) c).errors = c.errors ++ Arrival.failures looked := by
  induction looked generalizing c with
  | nil => simp [Arrival.failures]
  | cons x rest ih =>
    rw [Arrival.failures_cons] at distinct ⊢
    have step : (look accepts c x).errors = c.errors ++ x.event.failure?.toList := by
      unfold look
      cases event : x.event with
      | page source items => simp [addPage, SourceEvent.failure?]
      | done source served => simp [SourceEvent.failure?]
      | failed source error =>
        have fresh : source ∉ c.errors.map Prod.fst := by
          rw [event] at distinct
          simp only [SourceEvent.failure?, List.map_append, Option.toList_some] at distinct
          have apart := (List.nodup_append.1 distinct).2.2
          intro known
          exact apart source known source (by simp) rfl
        exact Named.put_of_not_mem error fresh
    rw [List.foldl_cons, ih, step, List.append_assoc]
    rwa [step, List.append_assoc]

end Collected

/-- Whether every source failed in what was looked at, and no page of it had an accepted item. -/
structure AllFailed (accepts : Nat → Item → Bool) (indexers : List Indexer)
    (looked : List Arrival) : Prop where
  failed : ∀ i ∈ indexers, ∃ x ∈ looked, ∃ e, x.event = .failed i.name e
  nothing : ∀ x ∈ looked, ∀ items ∈ x.event.page?, ∀ item ∈ items, accepts x.after item = false

theorem acceptedItems_eq_nil_iff {accepts : Nat → Item → Bool} {looked : List Arrival} :
    acceptedItems accepts looked = []
      ↔ ∀ x ∈ looked, ∀ items ∈ x.event.page?, ∀ item ∈ items, accepts x.after item = false := by
  rw [acceptedItems, List.flatMap_eq_nil_iff]
  refine forall₂_congr fun x _ => ?_
  cases x.event.page? <;> simp

/-! ## What arrives of all sources -/

namespace SearchAggregator

variable {a : SearchAggregator} {indexers : List Indexer} {now : Nat} {q : SearchQuery}
  {arriving looked : List Arrival}

section

variable (h : a.Delivers indexers now q arriving) (distinct : (indexers.map (·.name)).Nodup)

include h distinct

/-- The failures among what arrives are those of the sources. -/
theorem Delivers.failures_perm : (Arrival.failures arriving).Perm (indexers.flatMap fun i =>
    ((failureWithin (a.pageBudget q) (i.search now q)).map (i.name, ·)).toList) := by
  have sent (i : Indexer) : (a.sends now q i).filterMap (·.event.failure?)
      = ((failureWithin (a.pageBudget q) (i.search now q)).map (i.name, ·)).toList :=
    Arrival.failures_ofAnswer _ _ _
  rw [Arrival.failures]
  simpa only [sent] using h.filterMap_perm distinct SourceEvent.failure?

theorem Delivers.mem_failures_iff {source : String} {error : IndexerError} :
    (source, error) ∈ Arrival.failures arriving ↔ ∃ i ∈ indexers, i.name = source
      ∧ failureWithin (a.pageBudget q) (i.search now q) = some error := by
  rw [(h.failures_perm distinct).mem_iff]
  simp
  grind

theorem Delivers.failureWithin_of_mem {i : Indexer} (hi : i ∈ indexers) {error : IndexerError}
    (failed : (i.name, error) ∈ Arrival.failures arriving) :
    failureWithin (a.pageBudget q) (i.search now q) = some error := by
  obtain ⟨j, hj, name, own⟩ := (h.mem_failures_iff distinct).1 failed
  rwa [List.inj_on_of_nodup_map distinct hj hi name] at own

/-- Every source fails at most once. -/
theorem Delivers.nodup_failures : ((Arrival.failures arriving).map Prod.fst).Nodup := by
  have names (is : List Indexer) : ((is.flatMap fun i =>
      ((failureWithin (a.pageBudget q) (i.search now q)).map (i.name, ·)).toList).map
        Prod.fst).Sublist (is.map (·.name)) := by
    induction is with
    | nil => exact List.nil_sublist _
    | cons i rest ih =>
      rw [List.flatMap_cons, List.map_append, List.map_cons]
      cases failureWithin (a.pageBudget q) (i.search now q) with
      | none => exact ih.cons _
      | some e => exact ih.cons_cons _
  exact ((h.failures_perm distinct).map Prod.fst).nodup_iff.2 (distinct.sublist (names indexers))

/-- No source adds more pages than the budget has. -/
theorem Delivers.length_pages_le :
    (Arrival.pages arriving).length ≤ indexers.length * a.pageBudget q := by
  have sent (i : Indexer) : ((a.sends now q i).filterMap (·.event.page?)).length
      ≤ a.pageBudget q := by
    rw [sends, Arrival.pages_ofAnswer]
    cases i.search now q with
    | error e => exact Nat.zero_le _
    | ok steps => exact List.length_take_le _ _
  rw [Arrival.pages, (h.filterMap_perm distinct SourceEvent.page?).length_eq, List.length_flatMap]
  have each : ∀ n ∈ indexers.map fun i => ((a.sends now q i).filterMap (·.event.page?)).length,
      n ≤ a.pageBudget q := List.forall_mem_map.2 fun i _ => sent i
  simpa using List.sum_le_card_nsmul _ _ each

end

/-- A source whose failure was looked at gave all its pages before. -/
theorem Delivers.pages_of_failed (h : a.Delivers indexers now q arriving)
    (front : looked <+: arriving) {i : Indexer} (hi : i ∈ indexers)
    (failed : ∃ x ∈ looked, ∃ e, x.event = .failed i.name e) :
    (looked.filter (·.event.source = i.name)).filterMap (·.event.page?)
      = contribution (a.pageBudget q) (i.search now q) := by
  obtain ⟨x, hx, e, event⟩ := failed
  have own : (looked.filter (·.event.source = i.name)).map (·.event)
      <+: (a.sends now q i).map (·.event) := by
    rw [← h.ordered i hi]
    exact (front.filter _).map _
  have member : .failed i.name e ∈ (looked.filter (·.event.source = i.name)).map (·.event) := by
    refine List.mem_map.2 ⟨x, List.mem_filter.2 ⟨hx, ?_⟩, event⟩
    simp [event, SourceEvent.source]
  have all := Arrival.eq_of_failed_mem_ofAnswer own member
  have pages := congrArg (List.filterMap SourceEvent.page?) all
  rw [List.filterMap_map, List.filterMap_map] at pages
  exact pages.trans (Arrival.pages_ofAnswer _ _ _)

/-! ## What a search looked at -/

section

variable (h : a.Delivers indexers now q arriving) (distinct : (indexers.map (·.name)).Nodup)
  (front : looked <+: arriving)

include h distinct front

theorem Delivers.nodup_failures_of_front : ((Arrival.failures looked).map Prod.fst).Nodup :=
  (h.nodup_failures distinct).sublist ((Arrival.sublist_failures front).map _)

theorem Delivers.failures_subset :
    (Arrival.failures looked).map Prod.fst ⊆ indexers.map (·.name) := by
  intro name member
  obtain ⟨⟨source, e⟩, failed, rfl⟩ := List.mem_map.1 member
  have sent := (Arrival.sublist_failures front).subset failed
  obtain ⟨i, hi, name, -⟩ := (h.mem_failures_iff distinct).1 sent
  exact List.mem_map.2 ⟨i, hi, name⟩

/-- As many sources failed as there are only if every source did, once. -/
theorem Delivers.perm_of_length_failures
    (same : (Arrival.failures looked).length = indexers.length) :
    ((Arrival.failures looked).map Prod.fst).Perm (indexers.map (·.name)) := by
  have apart := h.nodup_failures_of_front distinct front
  have within := List.subperm_of_subset apart (h.failures_subset distinct front)
  exact within.perm_of_length_le (by simp [same])

theorem Delivers.length_failures_eq_iff :
    (Arrival.failures looked).length = indexers.length
      ↔ ∀ i ∈ indexers, ∃ x ∈ looked, ∃ e, x.event = .failed i.name e := by
  have named (source : String) : source ∈ (Arrival.failures looked).map Prod.fst
      ↔ ∃ x ∈ looked, ∃ e, x.event = .failed source e := by
    simp [Arrival.mem_failures_iff]
    grind
  constructor
  · intro same i hi
    have perm := h.perm_of_length_failures distinct front same
    exact (named i.name).1 (perm.mem_iff.2 (List.mem_map_of_mem hi))
  · intro all
    have covered : indexers.map (·.name) ⊆ (Arrival.failures looked).map Prod.fst := by
      intro name member
      obtain ⟨i, hi, rfl⟩ := List.mem_map.1 member
      exact (named i.name).2 (all i hi)
    have few := (List.subperm_of_subset (h.nodup_failures_of_front distinct front)
      (h.failures_subset distinct front)).length_le
    have many := (List.subperm_of_subset distinct covered).length_le
    simp only [List.length_map] at few many
    exact Nat.le_antisymm few many

end

/-- A search collects what it looked at, and its errors are the failures of that part. -/
theorem Delivers.exists_looked (h : a.Delivers indexers now q arriving)
    (distinct : (indexers.map (·.name)).Nodup) (wall : Nat → Moment) :
    ∃ looked, Collected.StopsAfter (q.acceptsAfter wall now) (q.offset + q.effectiveLimit) arriving
        looked
      ∧ collected wall now q arriving = looked.foldl (Collected.look (q.acceptsAfter wall now)) {}
      ∧ (collected wall now q arriving).items = acceptedItems (q.acceptsAfter wall now) looked
      ∧ (collected wall now q arriving).errors = Arrival.failures looked := by
  obtain ⟨looked, stops, fold⟩ := Collected.exists_stopsAfter (q.acceptsAfter wall now)
    (q.offset + q.effectiveLimit) {} arriving
  have apart := h.nodup_failures_of_front distinct stops.front
  refine ⟨looked, stops, fold, ?_, ?_⟩
  · exact (congrArg Collected.items fold).trans (Collected.items_foldl_look _ _ _)
  · exact (congrArg Collected.errors fold).trans (Collected.errors_foldl_look apart)

/-- Nothing was kept if and only if nothing but failures was looked at, of all sources. -/
theorem Delivers.nothingKept_iff (h : a.Delivers indexers now q arriving)
    (distinct : (indexers.map (·.name)).Nodup) (front : looked <+: arriving) {wall : Nat → Moment}
    (items : (collected wall now q arriving).items = acceptedItems (q.acceptsAfter wall now) looked)
    (errors : (collected wall now q arriving).errors = Arrival.failures looked) :
    NothingKept wall indexers.length now q arriving
      ↔ AllFailed (q.acceptsAfter wall now) indexers looked := by
  rw [NothingKept, errors, items, h.length_failures_eq_iff distinct front, acceptedItems_eq_nil_iff]
  exact ⟨fun ⟨failed, nothing⟩ => ⟨failed, nothing⟩, fun all => ⟨all.failed, all.nothing⟩⟩

/-- A search over sources takes what they send in the order of time. -/
theorem search_eq_consume (a : SearchAggregator) (wall : Nat → Moment) (seen : SeenStore)
    (some_source : indexers ≠ []) :
    a.search wall indexers now q seen
      = a.consume wall indexers.length now q seen (a.arrivals indexers now q) :=
  if_neg (by simpa using some_source)

/-- A search over sources fails if and only if a failure of every source is among what it looks at,
the shortest part of what arrives that holds enough, and no page of that has an accepted item. Its
error then gives every source the text of its own failure. Otherwise it succeeds, with the window of
what was accepted; and of a source that fails within the part all pages were looked at. -/
theorem fails_iff_allFailed (a : SearchAggregator) (wall : Nat → Moment) {indexers : List Indexer}
    {now : Nat} {q : SearchQuery} (seen : SeenStore)
    (distinct : (indexers.map (·.name)).Nodup) :
    (∀ arriving, a.Delivers indexers now q arriving → ∃ looked,
      Collected.StopsAfter (q.acceptsAfter wall now) (q.offset + q.effectiveLimit) arriving looked
      ∧ let o := a.consume wall indexers.length now q seen arriving
        let allFailed := AllFailed (q.acceptsAfter wall now) indexers looked
        ((∃ errors, o.result = .error (.allSourcesFailed errors)) ↔ allFailed)
        ∧ (∀ errors, o.result = .error (.allSourcesFailed errors) →
          (errors.map Prod.fst).Perm (indexers.map (·.name))
          ∧ ∀ i ∈ indexers, ∃ e, failureWithin (a.pageBudget q) (i.search now q) = some e
            ∧ (i.name, e.message) ∈ messages errors)
        ∧ (¬allFailed → ∃ r, o.result = .ok r ∧ r.items.map (·.item)
          = (((acceptedItems (q.acceptsAfter wall now) looked).drop q.offset).take
            q.effectiveLimit).map fun i => (a.issuer.issue i).1)
        ∧ ∀ i ∈ indexers, (∃ x ∈ looked, ∃ e, x.event = .failed i.name e) →
          (looked.filter (·.event.source = i.name)).filterMap (·.event.page?)
            = contribution (a.pageBudget q) (i.search now q))
    ∧ (indexers ≠ [] → (∀ i ∈ indexers, TimedInOrder (i.search now q)) →
      a.Delivers indexers now q (a.arrivals indexers now q)
      ∧ a.search wall indexers now q seen
        = a.consume wall indexers.length now q seen (a.arrivals indexers now q)) := by
  refine ⟨?_, fun some_source timed =>
    ⟨delivers_arrivals distinct timed, search_eq_consume a wall seen some_source⟩⟩
  intro arriving possible
  obtain ⟨looked, stops, -, items, errors⟩ := possible.exists_looked distinct wall
  have kept := possible.nothingKept_iff distinct stops.front items errors
  refine ⟨looked, stops, ?iff, ?texts, ?items, fun i hi => possible.pages_of_failed stops.front hi⟩
  case iff => simp [result_consume_eq_error_iff, kept]
  case texts =>
    intro errors' failed
    obtain ⟨nothing, ⟨⟩⟩ := result_consume_eq_error_iff.1 failed
    rw [errors]
    refine ⟨possible.perm_of_length_failures distinct stops.front (errors ▸ nothing.1), ?_⟩
    intro i hi
    obtain ⟨x, hx, e, event⟩ := (kept.1 nothing).failed i hi
    have member : (i.name, e) ∈ Arrival.failures looked :=
      Arrival.mem_failures_iff.2 ⟨x, hx, event⟩
    have sent := (Arrival.sublist_failures stops.front).subset member
    exact ⟨e, possible.failureWithin_of_mem distinct hi sent, mem_messages_iff.2 ⟨e, member, rfl⟩⟩
  case items =>
    intro some_kept
    rw [consume_of_not_nothingKept a seen (mt kept.1 some_kept)]
    refine ⟨_, rfl, ?_⟩
    rw [← window_eq_of_items items]
    exact Tracked.items_foldl_add _ _ _ _ _

/-- A source that fails after a page with an empty file, and one that does not start. -/
def failingSources : List Indexer :=
  [({ name := "a"
      steps := [.ok [{ Sample.webItem "a" "1" "A1" with size := 0 }], .error .timeout] } :
        Script).toIndexer,
   ({ name := "b", searchError := some .timeout } : Script).toIndexer]

/-- The page does not count, as its item is too small for the query. -/
theorem fails_iff_allFailed_sample :
    let a : SearchAggregator :=
      { issuer := .new "http://nab.example" ⟨[1], .random⟩, ids := default }
    let q : SearchQuery := { function := .search, minSize := some 1 }
    let arriving : List Arrival :=
      [⟨0, .failed "b" .timeout⟩, ⟨3, .page "a" [{ Sample.webItem "a" "1" "A1" with size := 0 }]⟩,
       ⟨4, .failed "a" .timeout⟩]
    a.Delivers failingSources 0 q arriving
      ∧ ∃ errors, (a.consume (fun _ => Sample.published) 2 0 q (.new 1 1) arriving).result
          = .error (.allSourcesFailed errors)
        ∧ (errors.map Prod.fst).Perm ["a", "b"] := by
  intro a q arriving
  have possible : a.Delivers failingSources 0 q arriving := by
    constructor
    · decide
    · simp only [failingSources, List.forall_mem_cons]
      exact ⟨rfl, rfl, by simp⟩
  obtain ⟨looked, -, -, texts, -⟩ :=
    (fails_iff_allFailed a (fun _ => Sample.published) (.new 1 1) (by decide)).1 arriving possible
  exact ⟨possible, _, rfl, (texts _ rfl).1⟩

/-! ## What a search reports -/

/-- A search reports the errors that it collected. -/
theorem reported_consume (a : SearchAggregator) (wall : Nat → Moment) (sources now : Nat)
    (q : SearchQuery) (seen : SeenStore) (arriving : List Arrival) :
    (a.consume wall sources now q seen arriving).reported
      = (collected wall now q arriving).errors := by
  by_cases failed : NothingKept wall sources now q arriving
  · rw [consume_of_nothingKept a seen failed]
    rfl
  · rw [consume_of_not_nothingKept a seen failed]
    rfl

/-- A source that has as many pages as the budget allows does not fail. -/
theorem failureWithin_eq_none {budget : Nat} {steps : List TimedStep}
    (spent : budget ≤ (leadingPages steps).length) : failureWithin budget (.ok steps) = none :=
  if_neg (Nat.not_lt.2 spent)

/-- A search consumes the shortest part of what arrives that ends with a page and holds enough
accepted items, or everything if there is no such part. What comes later cannot change what it does.
It counts the pages of that part, at most the page budget for every source, and reports exactly its
failures, each of them once. A source whose pages use up the budget is never reported. -/
theorem reports_looked (a : SearchAggregator) (wall : Nat → Moment) {indexers : List Indexer}
    {now : Nat} {q : SearchQuery} (seen : SeenStore)
    (distinct : (indexers.map (·.name)).Nodup) :
    (∀ arriving, a.Delivers indexers now q arriving → ∃ looked,
      Collected.StopsAfter (q.acceptsAfter wall now) (q.offset + q.effectiveLimit) arriving looked
      ∧ collected wall now q arriving = looked.foldl (Collected.look (q.acceptsAfter wall now)) {}
      ∧ let o := a.consume wall indexers.length now q seen arriving
        o = a.consume wall indexers.length now q seen looked
        ∧ (∀ r, o.result = .ok r →
          r.stats.pages = (Arrival.pages looked).length
          ∧ r.stats.pages ≤ indexers.length * a.pageBudget q
          ∧ r.stats.sourcesFailed = r.sourceErrors.length)
        ∧ (o.reported.map Prod.fst).Nodup
        ∧ (∀ source text, (source, text) ∈ messages o.reported
          ↔ ∃ x ∈ looked, ∃ e, x.event = .failed source e ∧ e.message = text)
        ∧ ∀ i ∈ indexers, ∀ steps, i.search now q = .ok steps →
          a.pageBudget q ≤ (leadingPages steps).length → i.name ∉ o.reported.map Prod.fst)
    ∧ (indexers ≠ [] → (∀ i ∈ indexers, TimedInOrder (i.search now q)) →
      a.Delivers indexers now q (a.arrivals indexers now q)
      ∧ a.search wall indexers now q seen
        = a.consume wall indexers.length now q seen (a.arrivals indexers now q)) := by
  refine ⟨?_, fun some_source timed =>
    ⟨delivers_arrivals distinct timed, search_eq_consume a wall seen some_source⟩⟩
  intro arriving possible
  obtain ⟨looked, stops, fold, -, errors⟩ := possible.exists_looked distinct wall
  have apart := possible.nodup_failures_of_front distinct stops.front
  refine ⟨looked, stops, fold, ?same, ?counts, ?_⟩
  case same =>
    obtain ⟨looked', stops', fold'⟩ := Collected.exists_stopsAfter (q.acceptsAfter wall now)
      (q.offset + q.effectiveLimit) {} looked
    rw [stops'.unique stops.self] at fold'
    exact consume_congr a seen (fold.trans fold'.symm)
  case counts =>
    intro r hr
    obtain ⟨-, -, reported, stats⟩ := result_consume_eq_ok_iff.1 hr
    have pages : r.stats.pages = (Arrival.pages looked).length := by
      simp [stats, fold, Collected.pages_foldl_look]
    have few : (Arrival.pages looked).length ≤ (Arrival.pages arriving).length :=
      (stops.front.sublist.filterMap _).length_le
    exact ⟨pages, pages ▸ few.trans (possible.length_pages_le distinct), by simp [stats, reported]⟩
  rw [reported_consume, errors]
  refine ⟨apart, ?texts, ?budget⟩
  case texts =>
    intro source text
    simp only [mem_messages_iff, Arrival.mem_failures_iff]
    grind
  case budget =>
    intro i hi steps answer spent reported
    obtain ⟨⟨source, e⟩, member, rfl⟩ := List.mem_map.1 reported
    have sent := (Arrival.sublist_failures stops.front).subset member
    have fails := possible.failureWithin_of_mem distinct hi sent
    rw [answer, failureWithin_eq_none spent] at fails
    cases fails

/-- The two pages hold enough, so the failure that comes with the second of them is not reported. -/
theorem reports_looked_sample :
    let a : SearchAggregator :=
      { issuer := .new "http://nab.example" ⟨[1], .random⟩, ids := default }
    let q : SearchQuery :=
      { function := .search, limit := some 1, offset := 1, maxPages := some 2, minSize := some 1 }
    let arriving : List Arrival :=
      [⟨5, .page "b" [Sample.webItem "b" "1" "B1", { Sample.webItem "b" "2" "B2" with size := 0 }]⟩,
       ⟨7, .page "a" [Sample.webItem "a" "1" "A1"]⟩, ⟨7, .failed "a" .timeout⟩,
       ⟨9, .page "b" [Sample.webItem "b" "3" "B3"]⟩, ⟨9, .done "b" 2⟩]
    a.Delivers sampleSources 0 q arriving
      ∧ let o := a.consume (fun _ => Sample.published) 2 0 q (.new 1 1) arriving
        (∃ r, o.result = .ok r ∧ r.stats.pages = 2)
          ∧ ∀ text, ("a", text) ∉ messages o.reported := by
  intro a q arriving
  have possible : a.Delivers sampleSources 0 q arriving := by
    constructor
    · decide
    · simp only [sampleSources, List.forall_mem_cons]
      exact ⟨rfl, rfl, by simp⟩
  obtain ⟨looked, stops, -, -, counts, -, texts, -⟩ :=
    (reports_looked a (fun _ => Sample.published) (.new 1 1) (by decide)).1 arriving possible
  have go : ¬Collected.Enough (q.acceptsAfter (fun _ => Sample.published) 0) 2 [arriving[0]] :=
    mt Collected.enough_singleton_iff.1 (by decide)
  have stop : Collected.Enough (q.acceptsAfter (fun _ => Sample.published) 0) 1 [arriving[1]] :=
    Collected.enough_singleton_iff.2 (by decide)
  have two : looked = arriving.take 2 := stops.unique (.cons go (.singleton stop _))
  subst two
  refine ⟨possible, ⟨_, rfl, (counts _ rfl).1⟩, ?_⟩
  intro text reported
  obtain ⟨x, hx, e, event, -⟩ := (texts "a" text).1 reported
  simp [arriving] at hx
  rcases hx with rfl | rfl <;> cases event

end SearchAggregator

end TorznabGateway
