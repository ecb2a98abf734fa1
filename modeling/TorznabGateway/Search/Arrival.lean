import TorznabGateway.Indexer.Basic

/-!
# Arrivals

A search asks several indexers at once, and what they give arrives interleaved. Every source sends a
sequence of events: at most so many pages, then either its failure or the notice that it is done.
An arrival is an event with the time that had passed since the start.
-/
namespace TorznabGateway

/-- What a source sends. -/
inductive SourceEvent where
  | page (source : String) (items : List Item)
  | failed (source : String) (error : IndexerError)
  | done (source : String) (pages : Nat)
  deriving Repr

/-- The source that sends an event. -/
def SourceEvent.source : SourceEvent → String
  | .page s _ => s
  | .failed s _ => s
  | .done s _ => s

/-- An event and the milliseconds from the start of the search to its arrival. -/
structure Arrival where
  after : Nat
  event : SourceEvent
  deriving Repr

namespace Arrival

/-- The events of steps after `served` pages: pages up to the budget and the first error, then the
end. The time is that of the last event. -/
def ofSteps (source : String) (budget served time : Nat) : List TimedStep → List Arrival
  | [] => [⟨time, .done source served⟩]
  | s :: rest =>
    if served < budget then
      match s.step with
      | .ok items =>
        ⟨s.after, .page source items⟩ :: ofSteps source budget (served + 1) s.after rest
      | .error e => [⟨s.after, .failed source e⟩]
    else [⟨time, .done source served⟩]

/-- The events of a source that may send so many pages. -/
def ofAnswer (source : String) (budget : Nat) : SearchAnswer → List Arrival
  | .error e => [⟨0, .failed source e⟩]
  | .ok steps => ofSteps source budget 0 0 steps

/-- Whether one arrival does not come after another. -/
def notAfter (a b : Arrival) : Bool :=
  a.after ≤ b.after

/-- Everything that arrives, in the order of time; at one time sources keep their order. -/
def interleave (sources : List (List Arrival)) : List Arrival :=
  sources.flatten.mergeSort notAfter

end Arrival

end TorznabGateway
