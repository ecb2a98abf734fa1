import TorznabGateway.Cache.TickIndex

/-!
# Cache with expiry

A bounded store of values that live for a limited time. An entry whose age exceeds the time to live
counts as absent and is dropped when it is next looked at. When the cache is full, a new key first
drops all expired entries and, if that frees nothing, the entry that was used longest ago.

The entries are held in a map, beside two indexes over their keys: one by the tick of the last use,
one by the tick of the insertion. A tick is drawn for every insertion and every use, so insertion
ticks rise with insertion times. Times are milliseconds.
-/
namespace TorznabGateway

/-- A stored value. -/
structure CacheEntry (ν : Type) where
  value : ν
  insertedAt : Nat
  insertedTick : Nat
  lastAccess : Nat
  deriving Repr

/-- The stored entries, the two indexes over them, and the last tick drawn. -/
structure CacheStore (κ ν : Type) where
  entries : List (κ × CacheEntry ν) := []
  byAccess : TickIndex κ := []
  byInsert : TickIndex κ := []
  tick : Nat := 0
  deriving Repr

namespace CacheStore

variable {κ ν : Type} [DecidableEq κ]

/-- The entry of a key. -/
def find? (s : CacheStore κ ν) (key : κ) : Option (CacheEntry ν) :=
  (s.entries.find? fun e => e.1 = key).map (·.2)

/-- Remove the entry of a key from the map and both indexes. -/
def remove (s : CacheStore κ ν) (key : κ) : CacheStore κ ν :=
  match s.find? key with
  | none => s
  | some e =>
    { s with
      entries := s.entries.filter (·.1 ≠ key)
      byAccess := s.byAccess.erase e.lastAccess
      byInsert := s.byInsert.erase e.insertedTick }

/-- Store a value under a key, in place of the one that is there. -/
def insert (s : CacheStore κ ν) (now : Nat) (key : κ) (value : ν) : CacheStore κ ν :=
  let s := s.remove key
  let tick := s.tick + 1
  { entries := s.entries ++ [(key, ⟨value, now, tick, tick⟩)]
    byAccess := s.byAccess.insert tick key
    byInsert := s.byInsert.insert tick key
    tick }

/-- Mark the entry of a key as just used. -/
def touch (s : CacheStore κ ν) (key : κ) : CacheStore κ ν :=
  let tick := s.tick + 1
  match s.find? key with
  | none => { s with tick }
  | some e =>
    { s with
      entries := s.entries.map fun x =>
        if x.1 = key then (key, { e with lastAccess := tick }) else x
      byAccess := (s.byAccess.erase e.lastAccess).insert tick key
      tick }

/-- Whether an entry is too old. -/
def isExpired (ttl now : Nat) (e : CacheEntry ν) : Bool :=
  ttl < now - e.insertedAt

theorem length_remove_lt (s : CacheStore κ ν) (key : κ) {e : CacheEntry ν}
    (h : s.find? key = some e) : (s.remove key).entries.length < s.entries.length := by
  obtain ⟨x, hx, -⟩ := Option.map_eq_some_iff.1 h
  have hmem := List.mem_of_find?_eq_some hx
  have hkey : x.1 = key := by simpa using List.find?_some hx
  simp only [remove, h]
  exact List.length_filter_lt_length_iff_exists.2 ⟨x, hmem, by simp [hkey]⟩

/-- Drop entries from the oldest insertion on, up to the first that is fresh, and count them. -/
def purge (ttl now : Nat) (s : CacheStore κ ν) : CacheStore κ ν × Nat :=
  match s.byInsert.first? with
  | none => (s, 0)
  | some key =>
    match _h : s.find? key with
    | none => (s, 0)
    | some e =>
      if isExpired ttl now e then
        let (s', purged) := purge ttl now (s.remove key)
        (s', purged + 1)
      else (s, 0)
termination_by s.entries.length
decreasing_by exact length_remove_lt s key ‹_›

/-- Drop the entry that was used longest ago, and say whether there was one. -/
def evict (s : CacheStore κ ν) : CacheStore κ ν × Bool :=
  match s.byAccess.first? with
  | none => (s, false)
  | some key => (s.remove key, (s.find? key).isSome)

end CacheStore

/-- A cache: its bounds, its store, and how often it was hit, missed, and made to evict. -/
structure TtlCache (κ ν : Type) where
  capacity : Nat
  ttl : Nat
  store : CacheStore κ ν := {}
  hits : Nat := 0
  misses : Nat := 0
  evictions : Nat := 0
  deriving Repr

namespace TtlCache

variable {κ ν : Type} [DecidableEq κ]

/-- An empty cache. It holds one entry at least. -/
def new (capacity ttl : Nat) : TtlCache κ ν :=
  { capacity := max capacity 1, ttl }

/-- The number of stored entries, expired ones included. -/
def size (c : TtlCache κ ν) : Nat :=
  c.store.entries.length

/-- Drop every expired entry, and count them. -/
def purgeExpired (c : TtlCache κ ν) (now : Nat) : TtlCache κ ν × Nat :=
  let (store, purged) := c.store.purge c.ttl now
  ({ c with store }, purged)

/-- Drop the entry that was used longest ago. -/
def evictOne (c : TtlCache κ ν) : TtlCache κ ν :=
  let (store, evicted) := c.store.evict
  { c with store, evictions := if evicted then c.evictions + 1 else c.evictions }

/-- Make room for a new key in a full cache. -/
def makeRoom (c : TtlCache κ ν) (now : Nat) : TtlCache κ ν :=
  let (c, _) := c.purgeExpired now
  if c.capacity ≤ c.size then c.evictOne else c

/-- Store a value. Replacing one restarts its time to live. -/
def add (c : TtlCache κ ν) (now : Nat) (key : κ) (value : ν) : TtlCache κ ν :=
  let c := if (c.store.find? key).isNone && c.capacity ≤ c.size then c.makeRoom now else c
  { c with store := c.store.insert now key value }

/-- Look up a value and count the look-up. A hit is a use; an expired entry is dropped. -/
def get (c : TtlCache κ ν) (now : Nat) (key : κ) : Option ν × TtlCache κ ν :=
  match c.store.find? key with
  | none => (none, { c with misses := c.misses + 1 })
  | some e =>
    if CacheStore.isExpired c.ttl now e then
      (none, { c with store := c.store.remove key, misses := c.misses + 1 })
    else (some e.value, { c with store := c.store.touch key, hits := c.hits + 1 })

/-- Whether a value is there. This is no use and is not counted, but drops an expired entry. -/
def contains (c : TtlCache κ ν) (now : Nat) (key : κ) : Bool × TtlCache κ ν :=
  match c.store.find? key with
  | none => (false, c)
  | some e =>
    if CacheStore.isExpired c.ttl now e then (false, { c with store := c.store.remove key })
    else (true, c)

/-- Drop all entries. Ticks go on. -/
def clear (c : TtlCache κ ν) : TtlCache κ ν :=
  { c with store := { tick := c.store.tick } }

end TtlCache

end TorznabGateway
