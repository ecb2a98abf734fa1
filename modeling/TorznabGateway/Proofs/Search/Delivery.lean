import TorznabGateway.Search.Aggregate

/-!
# Orders of arrival

The sources of a search work side by side, so what they send can reach the search in many orders.
An order is possible when it holds the events of every source, each source's in the order in which
they were sent, and nothing else. The times of the arrivals are left open.

## Main definitions

* `contribution`, `failureWithin`: the pages that one source may add to a search, and the failure
  that it may report.
* `SearchAggregator.Delivers`: the possible orders of arrival.

## Main statements

* `SearchAggregator.Delivers.pages_eq`: in every possible order a source's pages are its
  contribution.
* `SearchAggregator.Delivers.perm`: a possible order is a reordering of what all sources send.
* `SearchAggregator.delivers_arrivals`: arriving in the order of time is possible.
-/
namespace TorznabGateway

/-! ## The contribution of a source -/

/-- The pages of a search up to its first error. -/
def leadingPages : List TimedStep → List (List Item)
  | [] => []
  | s :: rest =>
    match s.step with
    | .ok items => items :: leadingPages rest
    | .error _ => []

/-- The pages that a source adds to a search that takes at most `budget` pages from it. A search
that cannot start adds nothing, and nothing is added from the first error on. -/
def contribution (budget : Nat) : SearchAnswer → List (List Item)
  | .error _ => []
  | .ok steps => (leadingPages steps).take budget

/-- The first error of a search. -/
def firstError? : List TimedStep → Option IndexerError
  | [] => none
  | s :: rest =>
    match s.step with
    | .ok _ => firstError? rest
    | .error e => some e

/-- The failure of a source in a search that takes at most `budget` pages from it: that of a search
that cannot start, or the first error, if the pages before it leave some of the budget. -/
def failureWithin (budget : Nat) : SearchAnswer → Option IndexerError
  | .error e => some e
  | .ok steps => if (leadingPages steps).length < budget then firstError? steps else none

/-- The items of an event that is a page. -/
def SourceEvent.page? : SourceEvent → Option (List Item)
  | .page _ items => some items
  | _ => none

/-- The source and the error of an event that is a failure. -/
def SourceEvent.failure? : SourceEvent → Option (String × IndexerError)
  | .failed source error => some (source, error)
  | _ => none

/-- Whether the steps of an answer are timed in their order. -/
def TimedInOrder : SearchAnswer → Prop
  | .error _ => True
  | .ok steps => steps.Pairwise (·.after ≤ ·.after)

namespace Arrival

theorem source_ofSteps (source : String) (budget served time : Nat) (steps : List TimedStep) :
    ∀ x ∈ ofSteps source budget served time steps, x.event.source = source := by
  fun_induction ofSteps source budget served time steps with
  | case1 => simp [SourceEvent.source]
  | case2 served time s rest hb items hs ih => simpa [SourceEvent.source] using ih
  | case3 => simp [SourceEvent.source]
  | case4 => simp [SourceEvent.source]

theorem source_ofAnswer (source : String) (budget : Nat) (answer : SearchAnswer) :
    ∀ x ∈ ofAnswer source budget answer, x.event.source = source := by
  cases answer with
  | error e => simp [ofAnswer, SourceEvent.source]
  | ok steps => exact source_ofSteps source budget 0 0 steps

/-- The budget that is left cuts the pages, the first error ends them. -/
theorem pages_ofSteps (source : String) (budget served time : Nat) (steps : List TimedStep) :
    (ofSteps source budget served time steps).filterMap (·.event.page?)
      = (leadingPages steps).take (budget - served) := by
  fun_induction ofSteps source budget served time steps with
  | case1 => simp [leadingPages, SourceEvent.page?]
  | case2 served time s rest hb items hs ih =>
    have left : budget - served = budget - (served + 1) + 1 := by omega
    simp only [leadingPages, hs]
    rw [left, List.take_succ_cons, ← ih]
    simp [SourceEvent.page?]
  | case3 served time s rest hb e hs => simp [leadingPages, hs, SourceEvent.page?]
  | case4 served time s rest hb =>
    have spent : budget - served = 0 := by omega
    simp [spent, SourceEvent.page?]

theorem pages_ofAnswer (source : String) (budget : Nat) (answer : SearchAnswer) :
    (ofAnswer source budget answer).filterMap (·.event.page?) = contribution budget answer := by
  cases answer with
  | error e => rfl
  | ok steps => exact pages_ofSteps source budget 0 0 steps

/-- A failure is reported if the pages before it do not use up what is left of the budget. -/
theorem failures_ofSteps (source : String) (budget served time : Nat) (steps : List TimedStep) :
    (ofSteps source budget served time steps).filterMap (·.event.failure?)
      = if (leadingPages steps).length + served < budget
        then ((firstError? steps).map (source, ·)).toList else [] := by
  fun_induction ofSteps source budget served time steps with
  | case1 => simp [firstError?, SourceEvent.failure?]
  | case2 served time s rest hb items hs ih =>
    have count : (leadingPages rest).length + (served + 1)
        = (leadingPages rest).length + 1 + served := by omega
    simpa [leadingPages, firstError?, hs, SourceEvent.failure?, count] using ih
  | case3 served time s rest hb e hs =>
    simp [leadingPages, firstError?, hs, hb, SourceEvent.failure?]
  | case4 served time s rest hb =>
    have spent : ¬(leadingPages (s :: rest)).length + served < budget := by omega
    simp [spent, SourceEvent.failure?]

theorem failures_ofAnswer (source : String) (budget : Nat) (answer : SearchAnswer) :
    (ofAnswer source budget answer).filterMap (·.event.failure?)
      = ((failureWithin budget answer).map (source, ·)).toList := by
  cases answer with
  | error e => rfl
  | ok steps =>
    rw [ofAnswer, failures_ofSteps, failureWithin, Nat.add_zero]
    by_cases left : (leadingPages steps).length < budget <;> simp [left]

/-- A source sends nothing behind a failure. -/
theorem eq_of_failed_mem_ofSteps {source : String} {budget served time : Nat}
    {steps : List TimedStep} {part : List SourceEvent} {error : IndexerError}
    (front : part <+: (ofSteps source budget served time steps).map (·.event))
    (failed : .failed source error ∈ part) :
    part = (ofSteps source budget served time steps).map (·.event) := by
  fun_induction ofSteps source budget served time steps generalizing part with
  | case1 => simpa using front.subset failed
  | case2 served time s rest hb items hs ih =>
    rcases List.prefix_cons_iff.1 front with rfl | ⟨part, rfl, tail⟩
    · cases failed
    · rw [List.map_cons, ih tail (by simpa using failed)]
  | case3 served time s rest hb e hs =>
    exact front.eq_of_length_le (List.length_pos_iff.2 (List.ne_nil_of_mem failed))
  | case4 => simpa using front.subset failed

theorem eq_of_failed_mem_ofAnswer {source : String} {budget : Nat} {answer : SearchAnswer}
    {part : List SourceEvent} {error : IndexerError}
    (front : part <+: (ofAnswer source budget answer).map (·.event))
    (failed : .failed source error ∈ part) :
    part = (ofAnswer source budget answer).map (·.event) := by
  cases answer with
  | error e => exact front.eq_of_length_le (List.length_pos_iff.2 (List.ne_nil_of_mem failed))
  | ok steps => exact eq_of_failed_mem_ofSteps front failed

/-- What a source sends after `served` pages comes no earlier than the last of them. -/
theorem pairwise_ofSteps {source : String} {budget served time : Nat} {steps : List TimedStep}
    (ordered : steps.Pairwise (·.after ≤ ·.after)) (later : ∀ s ∈ steps, time ≤ s.after) :
    (ofSteps source budget served time steps).Pairwise (·.after ≤ ·.after)
      ∧ ∀ x ∈ ofSteps source budget served time steps, time ≤ x.after := by
  fun_induction ofSteps source budget served time steps with
  | case1 => simp
  | case2 served time s rest hb items hs ih =>
    obtain ⟨first, tail⟩ := List.pairwise_cons.1 ordered
    obtain ⟨sorted, after⟩ := ih tail first
    have now : time ≤ s.after := later s List.mem_cons_self
    refine ⟨List.pairwise_cons.2 ⟨after, sorted⟩, ?_⟩
    intro x hx
    rcases List.mem_cons.1 hx with rfl | hx
    · exact now
    · exact Nat.le_trans now (after x hx)
  | case3 served time s rest hb e hs => simpa using later s List.mem_cons_self
  | case4 => simp

theorem pairwise_ofAnswer {source : String} {budget : Nat} {answer : SearchAnswer}
    (h : TimedInOrder answer) : (ofAnswer source budget answer).Pairwise (·.after ≤ ·.after) := by
  cases answer with
  | error e => simp [ofAnswer]
  | ok steps => exact (pairwise_ofSteps h fun _ _ => Nat.zero_le _).1

end Arrival

/-! ## Possible orders -/

namespace SearchAggregator

variable {a : SearchAggregator} {indexers : List Indexer} {now : Nat} {q : SearchQuery}

/-- What one source of a search sends. -/
def sends (a : SearchAggregator) (now : Nat) (q : SearchQuery) (i : Indexer) : List Arrival :=
  Arrival.ofAnswer i.name (a.pageBudget q) (i.search now q)

/-- Whether `arriving` is a possible order of what the sources of a search send. -/
structure Delivers (a : SearchAggregator) (indexers : List Indexer) (now : Nat) (q : SearchQuery)
    (arriving : List Arrival) : Prop where
  known : ∀ x ∈ arriving, ∃ i ∈ indexers, x.event.source = i.name
  ordered : ∀ i ∈ indexers, (arriving.filter (·.event.source = i.name)).map (·.event)
    = (a.sends now q i).map (·.event)

/-- In every possible order, the pages of a source are its contribution, in its own order. -/
theorem Delivers.pages_eq {arriving : List Arrival} (h : a.Delivers indexers now q arriving)
    {i : Indexer} (hi : i ∈ indexers) :
    (arriving.filter (·.event.source = i.name)).filterMap (·.event.page?)
      = contribution (a.pageBudget q) (i.search now q) := by
  have events (xs : List Arrival) :
      xs.filterMap (·.event.page?) = (xs.map (·.event)).filterMap SourceEvent.page? := by
    rw [List.filterMap_map]; rfl
  rw [events, h.ordered i hi, ← events, sends, Arrival.pages_ofAnswer]

/-- Sources with distinct names: among all that is sent, a name selects what its source sent. -/
theorem filter_flatten_sends (distinct : (indexers.map (·.name)).Nodup) {i : Indexer}
    (hi : i ∈ indexers) :
    ((indexers.map (a.sends now q)).flatten).filter (·.event.source = i.name)
      = a.sends now q i := by
  have own (j : Indexer) : ∀ x ∈ a.sends now q j, x.event.source = j.name :=
    Arrival.source_ofAnswer _ _ _
  induction indexers with
  | nil => cases hi
  | cons j rest ih =>
    obtain ⟨fresh, distinct⟩ := List.nodup_cons.1 distinct
    rw [List.map_cons, List.flatten_cons, List.filter_append]
    rcases List.mem_cons.1 hi with rfl | hi
    · have self : (a.sends now q i).filter (·.event.source = i.name) = a.sends now q i :=
        List.filter_eq_self.2 fun x hx => by simpa using own i x hx
      have others : ((rest.map (a.sends now q)).flatten).filter (·.event.source = i.name) = [] := by
        refine List.filter_eq_nil_iff.2 fun x hx => ?_
        obtain ⟨xs, hxs, hx⟩ := List.mem_flatten.1 hx
        obtain ⟨k, hk, rfl⟩ := List.mem_map.1 hxs
        have differ : k.name ≠ i.name := fun e => fresh (List.mem_map.2 ⟨k, hk, e⟩)
        simpa [own k x hx] using differ
      rw [self, others, List.append_nil]
    · have differ : j.name ≠ i.name := fun e => fresh (List.mem_map.2 ⟨i, hi, e.symm⟩)
      have others : (a.sends now q j).filter (·.event.source = i.name) = [] :=
        List.filter_eq_nil_iff.2 fun x hx => by simpa [own j x hx] using differ
      rw [others, List.nil_append, ih distinct hi]

/-- With distinct names, a possible order is a reordering of what all sources send. -/
theorem Delivers.perm {arriving : List Arrival} (h : a.Delivers indexers now q arriving)
    (distinct : (indexers.map (·.name)).Nodup) :
    (arriving.map (·.event)).Perm ((indexers.map (a.sends now q)).flatten.map (·.event)) := by
  classical
  -- an event occurs as often among all as among those of its source
  have own (e : SourceEvent) (xs : List Arrival) : (xs.map (·.event)).count e
      = ((xs.filter (·.event.source = e.source)).map (·.event)).count e := by
    have selects : (xs.filter (·.event.source = e.source)).map (·.event)
        = (xs.map (·.event)).filter (·.source = e.source) := by
      rw [List.filter_map]; rfl
    rw [selects, List.count_filter (by simp)]
  rw [List.perm_iff_count]
  intro e
  rw [own, own e (indexers.map (a.sends now q)).flatten]
  by_cases source : ∃ i ∈ indexers, e.source = i.name
  · obtain ⟨i, hi, source⟩ := source
    rw [source, h.ordered i hi, filter_flatten_sends distinct hi]
  · have strange (x : Arrival) (sent : ∃ i ∈ indexers, x.event.source = i.name) :
        ¬x.event.source = e.source := by
      obtain ⟨i, hi, name⟩ := sent
      exact fun same => source ⟨i, hi, same.symm.trans name⟩
    rw [List.filter_eq_nil_iff.2, List.filter_eq_nil_iff.2]
    · intro x hx
      obtain ⟨xs, hxs, hx⟩ := List.mem_flatten.1 hx
      obtain ⟨i, hi, rfl⟩ := List.mem_map.1 hxs
      simpa using strange x ⟨i, hi, Arrival.source_ofAnswer _ _ _ x hx⟩
    · intro x hx
      simpa using strange x (h.known x hx)

/-- What is read off the events of a possible order is what is read off those of the sources. -/
theorem Delivers.filterMap_perm {β : Type} {arriving : List Arrival}
    (h : a.Delivers indexers now q arriving) (distinct : (indexers.map (·.name)).Nodup)
    (f : SourceEvent → Option β) :
    (arriving.filterMap (f ·.event)).Perm
      (indexers.flatMap fun i => (a.sends now q i).filterMap (f ·.event)) := by
  have events (xs : List Arrival) : xs.filterMap (f ·.event) = (xs.map (·.event)).filterMap f := by
    rw [List.filterMap_map]; rfl
  have sources : indexers.flatMap (fun i => (a.sends now q i).filterMap (f ·.event))
      = ((indexers.map (a.sends now q)).flatten.map (·.event)).filterMap f := by
    rw [← events, List.filterMap_flatten, List.map_map, List.flatMap_def]; rfl
  rw [events, sources]
  exact (h.perm distinct).filterMap f

/-! ## Arrival in the order of time -/

/-- The order of time is a possible order. It keeps the order of every source because sorting is
stable and the sources time their steps in order. -/
theorem delivers_arrivals (distinct : (indexers.map (·.name)).Nodup)
    (timed : ∀ i ∈ indexers, TimedInOrder (i.search now q)) :
    a.Delivers indexers now q (a.arrivals indexers now q) := by
  have perm : (a.arrivals indexers now q).Perm (indexers.map (a.sends now q)).flatten :=
    List.mergeSort_perm _ _
  refine ⟨fun x hx => ?_, fun i hi => ?_⟩
  · obtain ⟨xs, hxs, hx⟩ := List.mem_flatten.1 (perm.mem_iff.1 hx)
    obtain ⟨i, hi, rfl⟩ := List.mem_map.1 hxs
    exact ⟨i, hi, Arrival.source_ofAnswer _ _ _ x hx⟩
  · have sorted : (a.sends now q i).Pairwise fun x y => Arrival.notAfter x y :=
      (Arrival.pairwise_ofAnswer (timed i hi)).imp (by simp [Arrival.notAfter])
    have sub : (a.sends now q i).Sublist (a.arrivals indexers now q) :=
      List.sublist_mergeSort (by simp [Arrival.notAfter]; omega) (by simp [Arrival.notAfter]; omega)
        sorted (List.sublist_flatten_of_mem (List.mem_map_of_mem hi))
    have perm' := perm.filter (·.event.source = i.name)
    rw [filter_flatten_sends distinct hi] at perm'
    have sub' := sub.filter (·.event.source = i.name)
    rw [List.filter_eq_self.2 fun x hx => by
      simpa using Arrival.source_ofAnswer _ _ _ x hx] at sub'
    rw [sub'.eq_of_length perm'.length_eq.symm]

end SearchAggregator

end TorznabGateway
