import TorznabGateway.Cache.Basic
import TorznabGateway.Indexer.Registry

/-!
# Health of the indexers

A report on all indexers, kept for a while. Reading a kept report does not prolong its life.
-/
namespace TorznabGateway

/-- How one indexer did. -/
structure IndexerHealth where
  name : String
  /-- The error of a check that failed. -/
  error : Option String
  deriving DecidableEq, Repr

def IndexerHealth.isOk (h : IndexerHealth) : Bool :=
  h.error.isNone

/-- A report on all indexers, and when they were checked. -/
structure StatusReport where
  checkedAt : Nat
  indexers : List IndexerHealth
  deriving DecidableEq, Repr

namespace StatusReport

/-- The number of indexers that passed. -/
def healthy (r : StatusReport) : Nat :=
  r.indexers.countP (·.isOk)

def total (r : StatusReport) : Nat :=
  r.indexers.length

/-- A report as an object, without times. -/
def toJson (r : StatusReport) : Json :=
  .object
    [("healthy", Json.ofNat r.healthy), ("total", Json.ofNat r.total),
     ("indexers", .array (r.indexers.map fun h => .object
        ([("name", .text h.name), ("ok", .boolean h.isOk)]
          ++ Json.optionMember "error" (h.error.map .text))))]

end StatusReport

/-- The cache of the last report; all reports have the same key. -/
abbrev StatusCache := TtlCache Unit StatusReport

namespace Registry

/-- Check one indexer. -/
def health (now : Nat) (i : Indexer) : IndexerHealth :=
  match i.check now with
  | .ok () => ⟨i.name, none⟩
  | .error e => ⟨i.name, some e.message⟩

/-- Check all indexers. The checks start together, and the report is made when all of them are done,
`took` later. -/
def checkAll (r : Registry) (now took : Nat) : StatusReport :=
  ⟨now + took, r.indexers.map (health now)⟩

/-- The current report, from the cache or from a round of checks that takes the given time, and
whether indexers were checked. -/
def currentReport (r : Registry) (cache : StatusCache) (now took : Nat) :
    StatusReport × Bool × StatusCache :=
  let (cached, cache) := cache.get now ()
  match cached with
  | some report => (report, false, cache)
  | none =>
    let report := r.checkAll now took
    (report, true, cache.add (now + took) () report)

/-- The current report, where checks take no time. -/
def status (r : Registry) (cache : StatusCache) (now : Nat) :
    StatusReport × Bool × StatusCache :=
  r.currentReport cache now 0

end Registry

end TorznabGateway
