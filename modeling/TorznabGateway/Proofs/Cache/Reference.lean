import TorznabGateway.Proofs.Cache.Recency

/-!
# The cache as a list of entries

The reference for the cache is a plain list of entries with distinct keys, the longest unused first.
A cache and its reference give the same answers and the same counts along every run in which the
clock does not go back.

## Main definitions

* `RecencyCache`: the reference, with its operations.
* `CacheOp`, `TtlCache.step`, `RecencyCache.step`: the operations as one step function each.
* `Simulates`: a cache whose store holds the list of the reference.

## Main statements

* `Simulates.step`: every operation answers the same and keeps the relation.
* `readings_eq_reference`: all that can be read along a run is the same.
-/
namespace TorznabGateway

/-! ## Runs -/

section Runs

variable {σ τ ο α β : Type}

/-- The state after operations at the given times. -/
def stateAfter (step : σ → Nat → ο → α × σ) (s : σ) (ops : List (Nat × ο)) : σ :=
  ops.foldl (fun s op => (step s op.1 op.2).2) s

/-- What is answered by each operation, with what is observed of the state after it. -/
def readings (step : σ → Nat → ο → α × σ) (observe : σ → β) (s : σ) :
    List (Nat × ο) → List (α × β)
  | [] => []
  | (now, op) :: rest =>
    ((step s now op).1, observe (step s now op).2) :: readings step observe (step s now op).2 rest

/-- Two machines whose steps keep a relation between their states, answer the same and look the
same are read the same along every run whose clock does not go back. -/
theorem readings_eq_of_simulation {stepS : σ → Nat → ο → α × σ} {stepT : τ → Nat → ο → α × τ}
    {observeS : σ → β} {observeT : τ → β} {related : Nat → σ → τ → Prop}
    (later : ∀ {now next s t}, now ≤ next → related now s t → related next s t)
    (same : ∀ {now s t}, related now s t → observeS s = observeT t)
    (step : ∀ {now s t}, related now s t → ∀ op,
      (stepS s now op).1 = (stepT t now op).1 ∧ related now (stepS s now op).2 (stepT t now op).2)
    {now : Nat} {s : σ} {t : τ} (start : related now s t) {ops : List (Nat × ο)}
    (sorted : ops.Pairwise (·.1 ≤ ·.1)) (after : ∀ op ∈ ops, now ≤ op.1) :
    readings stepS observeS s ops = readings stepT observeT t ops
      ∧ ∃ last, related last (stateAfter stepS s ops) (stateAfter stepT t ops) := by
  induction ops generalizing now s t with
  | nil => exact ⟨rfl, now, start⟩
  | cons op rest ih =>
    obtain ⟨time, op⟩ := op
    obtain ⟨first, sorted⟩ := List.pairwise_cons.1 sorted
    obtain ⟨answer, next⟩ := step (later (after _ List.mem_cons_self) start) op
    obtain ⟨equal, last⟩ := ih next sorted first
    exact ⟨by rw [readings, readings, answer, same next, equal], last⟩

end Runs

variable {κ ν : Type} [DecidableEq κ]

/-! ## Operations -/

/-- An operation on a cache. -/
inductive CacheOp (κ ν : Type) where
  | add (key : κ) (value : ν)
  | get (key : κ)
  | contains (key : κ)
  | len
  | purgeExpired
  | clear

/-- The answer to an operation. -/
inductive CacheAnswer (ν : Type) where
  | done
  | found (value : Option ν)
  | present (b : Bool)
  | count (n : Nat)
  deriving DecidableEq, Repr

/-- The counters of a cache. -/
structure CacheCounts where
  hits : Nat
  misses : Nat
  evictions : Nat
  deriving DecidableEq, Repr

namespace TtlCache

def counts (c : TtlCache κ ν) : CacheCounts :=
  ⟨c.hits, c.misses, c.evictions⟩

/-- Carry out an operation at time `now`. -/
def step (c : TtlCache κ ν) (now : Nat) : CacheOp κ ν → CacheAnswer ν × TtlCache κ ν
  | .add key value => (.done, c.add now key value)
  | .get key => (.found (c.get now key).1, (c.get now key).2)
  | .contains key => (.present (c.contains now key).1, (c.contains now key).2)
  | .len => (.count c.size, c)
  | .purgeExpired => (.count (c.purgeExpired now).2, (c.purgeExpired now).1)
  | .clear => (.done, c.clear)

end TtlCache

/-! ## The reference -/

/-- A cache as the list of its entries, the longest unused first. -/
structure RecencyCache (κ ν : Type) where
  capacity : Nat
  ttl : Nat
  items : List (Remembered κ ν) := []
  hits : Nat := 0
  misses : Nat := 0
  evictions : Nat := 0

namespace RecencyCache

def counts (c : RecencyCache κ ν) : CacheCounts :=
  ⟨c.hits, c.misses, c.evictions⟩

/-- The entries under other keys. -/
def others (c : RecencyCache κ ν) (key : κ) : List (Remembered κ ν) :=
  c.items.filter (·.key ≠ key)

/-- The entries that are not older than the time to live. -/
def fresh (c : RecencyCache κ ν) (now : Nat) : List (Remembered κ ν) :=
  c.items.filter (·.isFresh c.ttl now)

/-- A stored key is moved to the end with its new value. Any other key needs room: a full list first
drops all that is expired, and its head if it is still full. -/
def add (c : RecencyCache κ ν) (now : Nat) (key : κ) (value : ν) : RecencyCache κ ν :=
  let entry : Remembered κ ν := ⟨key, value, now⟩
  if c.items.any (·.key = key) then { c with items := c.others key ++ [entry] }
  else if c.items.length < max 1 c.capacity then { c with items := c.items ++ [entry] }
  else if (c.fresh now).length < max 1 c.capacity then { c with items := c.fresh now ++ [entry] }
  else { c with items := (c.fresh now).tail ++ [entry], evictions := c.evictions + 1 }

/-- A hit moves the entry to the end as it is; an expired entry is dropped. -/
def get (c : RecencyCache κ ν) (now : Nat) (key : κ) : Option ν × RecencyCache κ ν :=
  match c.items.find? (·.key = key) with
  | none => (none, { c with misses := c.misses + 1 })
  | some r =>
    if r.isFresh c.ttl now then
      (some r.value, { c with items := c.others key ++ [r], hits := c.hits + 1 })
    else (none, { c with items := c.others key, misses := c.misses + 1 })

/-- An expired entry is dropped; nothing else changes. -/
def contains (c : RecencyCache κ ν) (now : Nat) (key : κ) : Bool × RecencyCache κ ν :=
  match c.items.find? (·.key = key) with
  | none => (false, c)
  | some r =>
    if r.isFresh c.ttl now then (true, c) else (false, { c with items := c.others key })

/-- Drop and count what is expired. -/
def purgeExpired (c : RecencyCache κ ν) (now : Nat) : RecencyCache κ ν × Nat :=
  ({ c with items := c.fresh now }, c.items.countP (!·.isFresh c.ttl now))

/-- Carry out an operation at time `now`. -/
def step (c : RecencyCache κ ν) (now : Nat) : CacheOp κ ν → CacheAnswer ν × RecencyCache κ ν
  | .add key value => (.done, c.add now key value)
  | .get key => (.found (c.get now key).1, (c.get now key).2)
  | .contains key => (.present (c.contains now key).1, (c.contains now key).2)
  | .len => (.count c.items.length, c)
  | .purgeExpired => (.count (c.purgeExpired now).2, (c.purgeExpired now).1)
  | .clear => (.done, { c with items := [] })

end RecencyCache

/-! ## Simulation -/

/-- Whether a cache stands for its reference at time `now`: its store is consistent and holds the
list, and the bounds and counters are the same. -/
structure Simulates (now : Nat) (c : TtlCache κ ν) (m : RecencyCache κ ν) : Prop where
  consistent : c.store.Consistent now
  items : m.items = c.store.recency
  capacity : c.capacity = max 1 m.capacity
  ttl : m.ttl = c.ttl
  counts : c.counts = m.counts

namespace Simulates

variable {now : Nat} {c : TtlCache κ ν} {m : RecencyCache κ ν}

theorem new (capacity ttl now : Nat) :
    Simulates now (TtlCache.new capacity ttl : TtlCache κ ν) { capacity, ttl } where
  consistent := .empty 0 now
  items := rfl
  capacity := Nat.max_comm capacity 1
  ttl := rfl
  counts := rfl

theorem later {next : Nat} (le : now ≤ next) (h : Simulates now c m) : Simulates next c m :=
  { h with consistent := h.consistent.later le }

theorem length (h : Simulates now c m) : m.items.length = c.size := by
  rw [h.items, h.consistent.length_recency, TtlCache.size]

/-- The entry of a key is the same in the list and in the store. -/
theorem find? (h : Simulates now c m) (key : κ) :
    m.items.find? (·.key = key) = (c.store.find? key).map (.ofEntry key) := by
  rw [h.items, h.consistent.find?_recency]

theorem any_key (h : Simulates now c m) (key : κ) :
    m.items.any (·.key = key) = (c.store.find? key).isSome := by
  rw [Bool.eq_iff_iff, List.any_eq_true, ← List.find?_isSome, h.find?, Option.isSome_map]

theorem others (h : Simulates now c m) (key : κ) :
    m.others key = (c.store.remove key).recency := by
  rw [RecencyCache.others, h.items, h.consistent.recency_remove]

theorem purgeExpired (h : Simulates now c m) :
    (c.purgeExpired now).2 = (m.purgeExpired now).2
      ∧ Simulates now (c.purgeExpired now).1 (m.purgeExpired now).1 := by
  obtain ⟨consistent, list, count⟩ := h.consistent.purge c.ttl
  refine ⟨?_, ⟨consistent, ?_, h.capacity, h.ttl, h.counts⟩⟩
  · rw [RecencyCache.purgeExpired, h.items, h.ttl]
    exact count
  · rw [RecencyCache.purgeExpired, RecencyCache.fresh, h.items, h.ttl]
    exact list.symm

theorem evictOne (h : Simulates now c m) (some_left : m.items ≠ []) :
    Simulates now c.evictOne { m with items := m.items.tail, evictions := m.evictions + 1 } := by
  obtain ⟨consistent, list, evicted⟩ := h.consistent.evict
  have counts := h.counts
  simp only [TtlCache.counts, RecencyCache.counts, CacheCounts.mk.injEq] at counts
  rw [← h.items, List.isEmpty_eq_false_iff.2 some_left] at evicted
  refine ⟨consistent, ?_, h.capacity, h.ttl, ?_⟩
  · rw [h.items]
    exact list.symm
  · simp [TtlCache.counts, RecencyCache.counts, TtlCache.evictOne, evicted, counts]

/-- A full cache makes room by dropping what is expired, and then its head if need be. -/
theorem makeRoom (h : Simulates now c m) :
    Simulates now (c.makeRoom now)
      (if (m.fresh now).length < max 1 m.capacity then { m with items := m.fresh now }
      else { m with items := (m.fresh now).tail, evictions := m.evictions + 1 }) := by
  have purged := h.purgeExpired.2
  have size := purged.length
  have room := purged.capacity
  simp only [RecencyCache.purgeExpired] at size room
  rw [TtlCache.makeRoom]
  by_cases full : (c.purgeExpired now).1.capacity ≤ (c.purgeExpired now).1.size
  · have some_left : m.fresh now ≠ [] := List.ne_nil_of_length_pos (by omega)
    rw [if_neg (by omega)]
    simp only [full, if_true]
    exact purged.evictOne some_left
  · rw [if_pos (by omega)]
    simp only [full, if_false]
    exact purged

/-- Storing a value behind all others. -/
theorem insert (h : Simulates now c m) (key : κ) (value : ν) :
    Simulates now { c with store := c.store.insert now key value }
      { m with items := m.others key ++ [⟨key, value, now⟩] } := by
  refine ⟨h.consistent.insert key value, ?_, h.capacity, h.ttl, h.counts⟩
  rw [h.consistent.recency_insert, RecencyCache.others, h.items]

/-- Storing a value under a new key. -/
theorem insert_new (h : Simulates now c m) {key : κ} (absent : ∀ r ∈ m.items, r.key ≠ key)
    (value : ν) : Simulates now { c with store := c.store.insert now key value }
      { m with items := m.items ++ [⟨key, value, now⟩] } := by
  have all : m.others key = m.items :=
    List.filter_eq_self.2 fun r hr => decide_eq_true (absent r hr)
  have inserted := h.insert key value
  rwa [all] at inserted

theorem add (h : Simulates now c m) (key : κ) (value : ν) :
    Simulates now (c.add now key value) (m.add now key value) := by
  have stored := h.any_key key
  have size := h.length
  have room := h.capacity
  rw [RecencyCache.add, TtlCache.add, ← Option.not_isSome, ← stored]
  cases known : m.items.any (·.key = key) with
  | true => exact h.insert key value
  | false =>
    have absent : ∀ r ∈ m.items, r.key ≠ key := by simpa using known
    by_cases full : c.capacity ≤ c.size
    · have made := h.makeRoom
      simp only [full, Bool.not_false, decide_true, Bool.and_self, if_true, Bool.false_eq_true,
        if_false]
      rw [if_neg (by omega)]
      split at made
      · next fits =>
        rw [if_pos fits]
        exact made.insert_new (fun r hr => absent r (List.mem_of_mem_filter hr)) value
      · next crowded =>
        rw [if_neg crowded]
        exact made.insert_new
          (fun r hr => absent r (List.mem_of_mem_filter (List.mem_of_mem_tail hr))) value
    · simp only [full, Bool.not_false, decide_false, Bool.and_false, Bool.false_eq_true, if_false]
      rw [if_pos (by omega)]
      exact h.insert_new absent value

/-- Taking out a key. -/
theorem remove (h : Simulates now c m) (key : κ) :
    Simulates now { c with store := c.store.remove key } { m with items := m.others key } :=
  ⟨h.consistent.remove key, h.others key, h.capacity, h.ttl, h.counts⟩

theorem isFresh (h : Simulates now c m) (key : κ) (e : CacheEntry ν) :
    (Remembered.ofEntry key e).isFresh m.ttl now = !CacheStore.isExpired c.ttl now e := by
  rw [Remembered.isFresh_ofEntry, h.ttl]

theorem get (h : Simulates now c m) (key : κ) :
    (c.get now key).1 = (m.get now key).1
      ∧ Simulates now (c.get now key).2 (m.get now key).2 := by
  have counts := h.counts
  simp only [TtlCache.counts, RecencyCache.counts, CacheCounts.mk.injEq] at counts
  rw [TtlCache.get, RecencyCache.get, h.find?]
  cases he : c.store.find? key with
  | none =>
    refine ⟨rfl, h.consistent, h.items, h.capacity, h.ttl, ?_⟩
    simp [TtlCache.counts, RecencyCache.counts, counts]
  | some e =>
    simp only [Option.map_some, h.isFresh]
    cases old : CacheStore.isExpired c.ttl now e with
    | true =>
      refine ⟨rfl, h.consistent.remove key, h.others key, h.capacity, h.ttl, ?_⟩
      simp [TtlCache.counts, RecencyCache.counts, counts]
    | false =>
      refine ⟨rfl, h.consistent.touch key, ?_, h.capacity, h.ttl, ?_⟩
      · simp only [Bool.not_false, if_true]
        rw [RecencyCache.others, h.items]
        exact (h.consistent.recency_touch he).symm
      · simp [TtlCache.counts, RecencyCache.counts, counts]

theorem contains (h : Simulates now c m) (key : κ) :
    (c.contains now key).1 = (m.contains now key).1
      ∧ Simulates now (c.contains now key).2 (m.contains now key).2 := by
  rw [TtlCache.contains, RecencyCache.contains, h.find?]
  cases he : c.store.find? key with
  | none => exact ⟨rfl, h⟩
  | some e =>
    simp only [Option.map_some, h.isFresh]
    cases CacheStore.isExpired c.ttl now e with
    | true => exact ⟨rfl, h.remove key⟩
    | false => exact ⟨rfl, h⟩

theorem clear (h : Simulates now c m) : Simulates now c.clear { m with items := [] } :=
  ⟨.empty _ now, rfl, h.capacity, h.ttl, h.counts⟩

/-- Every operation answers the same and keeps the relation. -/
theorem step (h : Simulates now c m) (op : CacheOp κ ν) :
    (c.step now op).1 = (m.step now op).1
      ∧ Simulates now (c.step now op).2 (m.step now op).2 := by
  cases op with
  | add key value => exact ⟨rfl, h.add key value⟩
  | get key => exact (h.get key).imp_left (congrArg _)
  | contains key => exact (h.contains key).imp_left (congrArg _)
  | len => exact ⟨congrArg _ h.length.symm, h⟩
  | purgeExpired => exact h.purgeExpired.imp_left (congrArg _)
  | clear => exact ⟨rfl, h.clear⟩

/-- Along every run whose clock does not go back, a cache answers and counts as its reference does,
and ends up holding the same entries in the same order, each key once. -/
theorem run (h : Simulates now c m) {ops : List (Nat × CacheOp κ ν)}
    (sorted : ops.Pairwise (·.1 ≤ ·.1)) (after : ∀ op ∈ ops, now ≤ op.1) :
    readings TtlCache.step TtlCache.counts c ops
        = readings RecencyCache.step RecencyCache.counts m ops
      ∧ ∃ last, Simulates last (stateAfter TtlCache.step c ops)
        (stateAfter RecencyCache.step m ops) :=
  readings_eq_of_simulation (fun le h => h.later le) (fun h => h.counts) (fun h op => h.step op) h
    sorted after

end Simulates

/-- A new cache of any bounds is read as its reference along every run whose clock does not go
back. -/
theorem readings_eq_reference (capacity ttl : Nat) {ops : List (Nat × CacheOp κ ν)}
    (sorted : ops.Pairwise (·.1 ≤ ·.1)) :
    readings TtlCache.step TtlCache.counts (.new capacity ttl) ops
        = readings RecencyCache.step RecencyCache.counts { capacity, ttl } ops
      ∧ (stateAfter TtlCache.step (.new capacity ttl) ops).store.recency
        = (stateAfter RecencyCache.step { capacity, ttl } ops).items
      ∧ ((stateAfter RecencyCache.step { capacity, ttl } ops).items.map (·.key)).Nodup := by
  obtain ⟨same, last, related⟩ :=
    (Simulates.new capacity ttl 0).run sorted fun op _ => Nat.zero_le op.1
  refine ⟨same, related.items.symm, ?_⟩
  rw [related.items]
  exact related.consistent.nodup_recency

/-- In a full cache of two, an expired entry makes room without an eviction, the next key evicts the
entry that was not used, and a used entry is found up to the end of its life. -/
theorem readings_eq_reference_full :
    [0, 5, 11, 12, 13, 15, 16, 24].Pairwise (· ≤ ·)
      ∧ readings TtlCache.step TtlCache.counts (.new 2 10 : TtlCache Nat String)
          [(0, .add 1 "a"), (5, .add 2 "b"), (11, .add 3 "c"), (12, .get 2), (13, .add 4 "d"),
            (15, .get 2), (16, .get 2), (24, .purgeExpired)]
        = [(.done, ⟨0, 0, 0⟩), (.done, ⟨0, 0, 0⟩), (.done, ⟨0, 0, 0⟩), (.found "b", ⟨1, 0, 0⟩),
            (.done, ⟨1, 0, 1⟩), (.found "b", ⟨2, 0, 1⟩), (.found none, ⟨2, 1, 1⟩),
            (.count 1, ⟨2, 1, 1⟩)] :=
  ⟨by decide, (readings_eq_reference 2 10 (by decide)).1.trans (by decide)⟩

end TorznabGateway
