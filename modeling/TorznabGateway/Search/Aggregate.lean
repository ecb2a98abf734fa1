import TorznabGateway.Named
import TorznabGateway.Search.Arrival
import TorznabGateway.Search.DownloadLink
import TorznabGateway.Search.Seen

/-!
# Aggregated search

One search over several indexers. Accepted items are collected in the order of their arrival until
there are enough for the offset and the limit of the query; what arrives after that is not looked
at. A source that fails is reported and does not end the search, unless all fail and nothing was
collected. The items within the window are then compared with earlier sightings and their links
replaced.
-/
namespace TorznabGateway

open Time

/-! ## Collecting -/

/-- What one source sent so far. -/
structure SourceTally where
  pages : Nat := 0
  /-- The number of its items that were accepted. -/
  accepted : Nat := 0
  deriving DecidableEq, Repr

/-- What was collected so far. -/
structure Collected where
  items : List Item := []
  pages : Nat := 0
  /-- What every source that sent a page sent. -/
  perSource : Named SourceTally := []
  /-- The error of every source that failed. -/
  errors : Named IndexerError := []
  /-- The time of the last arrival that was looked at. -/
  elapsed : Nat := 0
  observed : List Observation := []
  deriving Repr

namespace Collected

/-- Take a page into account. -/
def addPage (c : Collected) (source : String) (accepted : List Item) : Collected :=
  let tally := (Named.get? source c.perSource).getD {}
  { c with
    items := c.items ++ accepted
    pages := c.pages + 1
    perSource :=
      Named.put source ⟨tally.pages + 1, tally.accepted + accepted.length⟩ c.perSource }

/-- Take the failure of a source into account. -/
def addFailure (c : Collected) (source : String) (error : IndexerError) : Collected :=
  { c with
    errors := Named.put source error c.errors
    observed := c.observed ++ [.sourceFailed source error.kind] }

/-- Look at arrivals until a page makes the items enough. `accepts` judges an item at the time of
its arrival. -/
def collect (accepts : Nat → Item → Bool) (wanted : Nat) (c : Collected) :
    List Arrival → Collected
  | [] => c
  | a :: rest =>
    let c := { c with elapsed := a.after }
    match a.event with
    | .page source items =>
      let c := c.addPage source (items.filter (accepts a.after))
      if wanted ≤ c.items.length then c else collect accepts wanted c rest
    | .failed source error => collect accepts wanted (c.addFailure source error) rest
    | .done _ _ => collect accepts wanted c rest

end Collected

/-! ## Tracking -/

/-- Counts of a finished search. -/
structure SearchStats where
  pages : Nat := 0
  new : Nat := 0
  updated : Nat := 0
  unchanged : Nat := 0
  sourcesFailed : Nat := 0
  deriving DecidableEq, Repr

/-- Count an item in its state. -/
def SearchStats.count (s : SearchStats) : ItemState → SearchStats
  | .new => { s with new := s.new + 1 }
  | .updated => { s with updated := s.updated + 1 }
  | .unchanged => { s with unchanged := s.unchanged + 1 }

/-- Items with their tracking data, in the order of the search. -/
structure Tracked where
  items : List TrackedItem := []
  seen : SeenStore
  observed : List Observation := []

/-- Compare an item with earlier sightings, then replace its link. -/
def Tracked.add (ids : Nat → Uuid) (issuer : LinkIssuer) (now : Nat) (t : Tracked)
    (i : Item) : Tracked :=
  let (uuid, state, seen) := t.seen.classify ids now i
  let (item, observed) := issuer.issue i
  { items := t.items ++ [⟨item, uuid, i.fingerprint, state⟩]
    seen
    observed := t.observed ++ .classified state :: observed }

/-! ## Searching -/

/-- Why a search has no result. -/
inductive AggregateError where
  | noSources
  | allSourcesFailed (errors : Named IndexerError)
  deriving Repr

def AggregateError.message : AggregateError → String
  | .noSources => "No indexers to search"
  | .allSourcesFailed _ => "All indexers failed"

/-- The result of a search. -/
structure AggregateResult where
  items : List TrackedItem
  sourceErrors : Named IndexerError
  stats : SearchStats
  deriving Repr

/-- What a search does: its result or error, the sightings after it, the time it took, and what
was observed. -/
structure AggregateOutcome where
  result : Except AggregateError AggregateResult
  seen : SeenStore
  elapsed : Nat
  /-- The pages of every source that were looked at. -/
  pagesTaken : Named Nat := []
  observed : List Observation

/-- How searches are run. -/
structure SearchAggregator where
  issuer : LinkIssuer
  /-- Pages taken from each indexer when a query names no number. -/
  maxPages : Nat := 3
  /-- How many events may wait to be looked at. -/
  channelCapacity : Nat := 16
  /-- The identifiers of new items. -/
  ids : Nat → Uuid

namespace SearchAggregator

def withMaxPages (a : SearchAggregator) (n : Nat) : SearchAggregator :=
  { a with maxPages := max n 1 }

def withChannelCapacity (a : SearchAggregator) (n : Nat) : SearchAggregator :=
  { a with channelCapacity := max n 1 }

/-- The number of pages that a query takes from each indexer. -/
def pageBudget (a : SearchAggregator) (q : SearchQuery) : Nat :=
  max (q.maxPages.getD a.maxPages) 1

/-- What the sources of a search send. -/
def arrivals (a : SearchAggregator) (indexers : List Indexer) (now : Nat) (q : SearchQuery) :
    List Arrival :=
  Arrival.interleave
    (indexers.map fun i => Arrival.ofAnswer i.name (a.pageBudget q) (i.search now q))

/-- Judge what arrives at a search over `sources` indexers that started at time `now`. The clock
`wall` tells the date at a time. -/
def consume (a : SearchAggregator) (wall : Nat → Moment) (sources : Nat) (now : Nat)
    (q : SearchQuery) (seen : SeenStore) (arriving : List Arrival) : AggregateOutcome :=
  let limit := q.effectiveLimit
  let accepts := fun after i => q.accepts (wall (now + after)) i
  let c := Collected.collect accepts (q.offset + limit) {} arriving
  let perSource := c.perSource.map fun (name, t) => Observation.sourceItems name t.accepted
  let pagesTaken := c.perSource.map fun (name, t) => (name, t.pages)
  if c.errors.length = sources ∧ c.items = [] then
    { result := .error (.allSourcesFailed c.errors)
      seen
      elapsed := c.elapsed
      pagesTaken
      observed := c.observed ++ perSource ++ [.searched .allFailed] }
  else
    let window := (c.items.drop q.offset).take limit
    let t := window.foldl (Tracked.add a.ids a.issuer (now + c.elapsed)) { seen }
    let stats := t.items.foldl (fun s i => s.count i.state)
      { pages := c.pages, sourcesFailed := c.errors.length }
    { result := .ok { items := t.items, sourceErrors := c.errors, stats }
      seen := t.seen
      elapsed := c.elapsed
      pagesTaken
      observed := c.observed ++ perSource ++ t.observed
        ++ [.searched (if c.errors.isEmpty then .success else .someFailed)] }

/-- Run a search at time `now`. -/
def search (a : SearchAggregator) (wall : Nat → Moment) (indexers : List Indexer) (now : Nat)
    (q : SearchQuery) (seen : SeenStore) : AggregateOutcome :=
  if indexers.isEmpty then
    { result := .error .noSources, seen, elapsed := 0, observed := [] }
  else a.consume wall indexers.length now q seen (a.arrivals indexers now q)

end SearchAggregator

end TorznabGateway
