import TorznabGateway.Cache.Basic
import TorznabGateway.Search.Item

/-!
# Sightings

Which items were seen before, and whether they changed since. Every sighting restarts an item's time
to live, so only items that stay away are forgotten. New items get identifiers from a supply that is
numbered from one.
-/
namespace TorznabGateway

/-- What is remembered of an item. -/
structure Sighting where
  uuid : Uuid
  fingerprint : String
  deriving DecidableEq, Repr

/-- The sightings by item key, and the number of identifiers that were issued. -/
structure SeenStore where
  sightings : TtlCache String Sighting
  issued : Nat := 0
  deriving Repr

namespace SeenStore

/-- Items remembered when nothing else is configured. -/
def defaultCapacity : Nat := 10000

/-- How long an item is remembered when nothing else is configured: a day in milliseconds. -/
def defaultTtl : Nat := 24 * 60 * 60 * 1000

def new (capacity ttl : Nat) : SeenStore :=
  { sightings := .new capacity ttl }

/-- Compare an item with its last sighting and record this one. -/
def classify (ids : Nat → Uuid) (s : SeenStore) (now : Nat) (i : Item) :
    Uuid × ItemState × SeenStore :=
  let (last, sightings) := s.sightings.get now i.key
  match last with
  | none =>
    let uuid := ids (s.issued + 1)
    (uuid, .new, ⟨sightings.add now i.key ⟨uuid, i.fingerprint⟩, s.issued + 1⟩)
  | some seen =>
    let state := if seen.fingerprint = i.fingerprint then ItemState.unchanged else .updated
    (seen.uuid, state, ⟨sightings.add now i.key ⟨seen.uuid, i.fingerprint⟩, s.issued⟩)

end SeenStore

end TorznabGateway
