import Mathlib.Data.List.DropRight
import TorznabGateway.Proofs.Cache.Memory

/-!
# Which values a cache still finds

What a look-up finds is determined by the history of the cache, as far as a bounded cache can
promise anything: only the value that was last stored under the key, never after its time to live,
and surely within it as long as fewer keys than the cache has room for were used since the key was.
A key is used when a value is stored under it and when a look-up finds it, not when it is missed,
asked for by `contains`, or purged.

## Main definitions

* `TtlCache.history`: the operations of a run with their answers.
* `CacheEvent.lastAdded`: what was last stored under a key and not cleared since.
* `CacheEvent.usedSince`: the keys that were used since a key was.

## Main statements

* `TtlCache.Remembers.step`: what one operation does to what a cache remembers of a key.
* `TtlCache.size_step`: no operation stores more entries than there is room for.
* `TtlCache.consistent_run`: the state of a cache after any run.
* `TtlCache.get_of_history`: what a look-up finds after any run.
-/
namespace TorznabGateway

variable {κ ν : Type} [DecidableEq κ]

/-! ## Histories -/

/-- An operation at its time, with its answer. -/
structure CacheEvent (κ ν : Type) where
  time : Nat
  op : CacheOp κ ν
  answer : CacheAnswer ν

namespace CacheEvent

/-- The key that an event uses: one that is stored, or found by a look-up. -/
def used? (e : CacheEvent κ ν) : Option κ :=
  match e.op, e.answer with
  | .add key _, _ => some key
  | .get key, .found (some _) => some key
  | _, _ => none

/-- Whether everything is dropped. -/
def isClear (e : CacheEvent κ ν) : Bool :=
  match e.op with
  | .clear => true
  | _ => false

/-- What an event stores under a key, and when. -/
def added? (key : κ) (e : CacheEvent κ ν) : Option (Nat × ν) :=
  match e.op with
  | .add k value => if k = key then some (e.time, value) else none
  | _ => none

/-- What was last stored under a key, and when, if nothing was cleared since. -/
def lastAdded (key : κ) (history : List (CacheEvent κ ν)) : Option (Nat × ν) :=
  (history.rtakeWhile (!·.isClear)).reverse.findSome? (·.added? key)

/-- The keys that were used since a key was. -/
def usedSince (key : κ) (history : List (CacheEvent κ ν)) : Finset κ :=
  ((history.rtakeWhile (·.used? ≠ some key)).filterMap (·.used?)).toFinset

variable {key : κ} {history : List (CacheEvent κ ν)} {e : CacheEvent κ ν}

theorem lastAdded_concat_of_isClear (h : e.isClear) : lastAdded key (history ++ [e]) = none := by
  simp [lastAdded, h]

theorem lastAdded_concat (h : e.isClear = false) :
    lastAdded key (history ++ [e]) = (e.added? key).or (lastAdded key history) := by
  simp only [lastAdded, List.rtakeWhile_concat, h, Bool.not_false, if_true, List.reverse_append,
    List.reverse_singleton, List.singleton_append, List.findSome?_cons]
  cases e.added? key <;> rfl

theorem usedSince_concat_of_eq_none (h : e.used? = none) :
    usedSince key (history ++ [e]) = usedSince key history := by
  simp [usedSince, h]

theorem usedSince_concat_of_eq_some {k : κ} (h : e.used? = some k) :
    usedSince key (history ++ [e]) = afterUse key k (usedSince key history) := by
  rw [usedSince, List.rtakeWhile_concat, h]
  by_cases same : k = key
  · simp [same]
  · have other : decide (some k ≠ some key) = true := by simpa using same
    rw [other, if_pos rfl, List.filterMap_append, List.toFinset_append, Finset.union_comm,
      afterUse_of_ne same]
    simp [h, usedSince]

end CacheEvent

/-! ## One operation -/

namespace RecencyCache

variable {m : RecencyCache κ ν} {now : Nat} {key : κ}

/-- Asking whether a key is there takes out no entry that is fresh. -/
theorem exists_items_contains (now : Nat) (key : κ) (nodup : (m.items.map (·.key)).Nodup) :
    ∃ p, (m.contains now key).2.items = m.items.filter p
      ∧ ∀ r ∈ m.items, r.isFresh m.ttl now → p r := by
  have whole : m.items = m.items.filter fun _ => true := by simp
  rw [contains]
  cases found : m.items.find? (·.key = key) with
  | none => exact ⟨fun _ => true, whole, by simp⟩
  | some x =>
    by_cases young : x.isFresh m.ttl now
    · exact ⟨fun _ => true, by simp [young], by simp⟩
    · refine ⟨(·.key ≠ key), by simp [young, others], ?_⟩
      intro r stored fresh
      refine decide_eq_true fun same => young ?_
      have hx : x.key = key := by simpa using List.find?_some found
      rwa [List.inj_on_of_nodup_map nodup (List.mem_of_find?_eq_some found) stored
        (hx.trans same.symm)]

/-- No operation stores more entries than there is room for. -/
theorem length_step (h : m.items.length ≤ max 1 m.capacity) (op : CacheOp κ ν) :
    (m.step now op).2.items.length ≤ max 1 m.capacity := by
  have others_le (key : κ) : (m.others key).length ≤ m.items.length := List.length_filter_le _ _
  have fresh_le : (m.fresh now).length ≤ m.items.length := List.length_filter_le _ _
  have replaced {key : κ} {r : Remembered κ ν} (hr : r ∈ m.items) (same : r.key = key) :
      (m.others key).length < m.items.length :=
    List.length_filter_lt_length_iff_exists.2 ⟨r, hr, by simpa using same⟩
  cases op with
  | add key value =>
    simp only [step, add]
    split
    · next known =>
      obtain ⟨r, hr, same⟩ := List.any_eq_true.1 known
      have := replaced hr (of_decide_eq_true same)
      simp only [List.length_append, List.length_singleton]
      omega
    repeat' split
    all_goals
      simp only [List.length_append, List.length_singleton, List.length_tail]
      omega
  | get key =>
    simp only [step, get]
    cases found : m.items.find? (·.key = key) with
    | none => exact h
    | some r =>
      have := replaced (List.mem_of_find?_eq_some found) (by simpa using List.find?_some found)
      have := others_le key
      dsimp only
      split
      · simp only [List.length_append, List.length_singleton]
        omega
      · exact (others_le key).trans h
  | contains key =>
    simp only [step, contains]
    cases found : m.items.find? (·.key = key) with
    | none => exact h
    | some r =>
      dsimp only
      split
      · exact h
      · exact (others_le key).trans h
  | len => exact h
  | purgeExpired => exact fresh_le.trans h
  | clear => exact Nat.zero_le _

end RecencyCache

namespace TtlCache

open CacheEvent

variable {c : TtlCache κ ν} {now : Nat} {key : κ} {last : Option (Nat × ν)} {used : Finset κ}
  {past : List (CacheEvent κ ν)}

theorem bounds_step (c : TtlCache κ ν) (now : Nat) (op : CacheOp κ ν) :
    (c.step now op).2.capacity = c.capacity ∧ (c.step now op).2.ttl = c.ttl := by
  cases op with
  | add key value => exact ⟨capacity_add c now key value, ttl_add c now key value⟩
  | get key => exact ⟨capacity_get c now key, ttl_get c now key⟩
  | contains key =>
    simp only [step, contains]
    grind
  | len => exact ⟨rfl, rfl⟩
  | purgeExpired => exact ⟨rfl, rfl⟩
  | clear => exact ⟨rfl, rfl⟩

/-- An operation that only takes out entries, and none that is fresh. -/
theorem Remembers.of_filter (h : c.Remembers now key last used) (op : CacheOp κ ν)
    {p : Remembered κ ν → Bool}
    (items : (c.reference.step now op).2.items = c.store.recency.filter p)
    (kept : ∀ r ∈ c.store.recency, r.isFresh c.ttl now → p r) :
    (c.step now op).2.Remembers now key last used := by
  have after := ((simulates_reference h.consistent h.room).step op).2
  obtain ⟨capacity, ttl⟩ := bounds_step c now op
  have list := after.items.symm.trans items
  refine ⟨after.consistent, capacity ▸ h.room, ?sound, ?held⟩
  case sound =>
    intro r stored
    rw [list] at stored
    exact h.sound r (List.mem_of_mem_filter stored)
  case held =>
    intro t value hl young few
    rw [ttl] at young
    rw [capacity] at few
    have before := h.held t value hl young few
    rw [list]
    refine before.filter (kept _ before.mem (decide_eq_true ?_))
    dsimp only
    omega

/-- What is remembered of a key after one more operation. -/
theorem Remembers.step (h : c.Remembers now key (lastAdded key past) (usedSince key past))
    (op : CacheOp κ ν) :
    (c.step now op).2.Remembers now key
      (lastAdded key (past ++ [⟨now, op, (c.step now op).1⟩]))
      (usedSince key (past ++ [⟨now, op, (c.step now op).1⟩])) := by
  cases op with
  | add k value =>
    have last : (added? key ⟨now, .add k value, .done⟩).or (lastAdded key past)
        = if k = key then some (now, value) else lastAdded key past := by
      by_cases same : k = key <;> simp [added?, same]
    rw [lastAdded_concat rfl, usedSince_concat_of_eq_some rfl]
    exact last ▸ h.add k value
  | get k =>
    have looked := h.get k
    rw [lastAdded_concat rfl, added?, Option.none_or]
    cases hit : (c.get now k).1 with
    | none =>
      rw [usedSince_concat_of_eq_none (by simp [used?, TtlCache.step, hit])]
      rwa [hit] at looked
    | some value =>
      rw [usedSince_concat_of_eq_some (k := k) (by simp [used?, TtlCache.step, hit])]
      rwa [hit] at looked
  | contains k =>
    rw [lastAdded_concat rfl, added?, Option.none_or, usedSince_concat_of_eq_none rfl]
    have nodup : (c.reference.items.map (·.key)).Nodup := h.consistent.nodup_recency
    obtain ⟨p, items, kept⟩ := RecencyCache.exists_items_contains now k nodup
    exact h.of_filter (.contains k) items kept
  | len =>
    rw [lastAdded_concat rfl, added?, Option.none_or, usedSince_concat_of_eq_none rfl]
    exact h
  | purgeExpired =>
    rw [lastAdded_concat rfl, added?, Option.none_or, usedSince_concat_of_eq_none rfl]
    have items : (c.reference.step now .purgeExpired).2.items
        = c.store.recency.filter (·.isFresh c.ttl now) := rfl
    exact h.of_filter .purgeExpired items fun _ _ fresh => fresh
  | clear =>
    rw [lastAdded_concat_of_isClear rfl]
    refine ⟨.empty _ now, h.room, ?_, ?_⟩
    · intro r stored
      cases stored
    · intro t value none_left
      cases none_left

/-- No operation stores more entries than there is room for. -/
theorem size_step (consistent : c.store.Consistent now) (room : 1 ≤ c.capacity)
    (h : c.size ≤ c.capacity) (op : CacheOp κ ν) :
    (c.step now op).2.size ≤ c.capacity := by
  have sim := simulates_reference consistent room
  have stored : c.reference.items.length ≤ max 1 c.reference.capacity := by
    rw [sim.length]
    exact h.trans (Nat.le_max_right 1 _)
  have bound : (c.reference.step now op).2.items.length ≤ max 1 c.reference.capacity :=
    RecencyCache.length_step stored op
  rw [(sim.step op).2.length] at bound
  exact bound.trans (Nat.le_of_eq (Nat.max_eq_right room))

/-! ## Runs -/

/-- The events of a run. -/
def history (c : TtlCache κ ν) : List (Nat × CacheOp κ ν) → List (CacheEvent κ ν)
  | [] => []
  | (now, op) :: rest => ⟨now, op, (c.step now op).1⟩ :: (c.step now op).2.history rest

theorem history_concat (c : TtlCache κ ν) (ops : List (Nat × CacheOp κ ν)) (now : Nat)
    (op : CacheOp κ ν) : c.history (ops ++ [(now, op)])
      = c.history ops ++ [⟨now, op, ((stateAfter TtlCache.step c ops).step now op).1⟩] := by
  induction ops generalizing c with
  | nil => rfl
  | cons first rest ih => exact congrArg (_ :: ·) (ih _)

/-- The state of a cache that was empty after a run: it is consistent, has kept its bounds, and
stores no more than there is room for. -/
theorem consistent_run (capacity ttl : Nat) {ops : List (Nat × CacheOp κ ν)}
    (sorted : ops.Pairwise (·.1 ≤ ·.1)) {now : Nat} (le : ∀ op ∈ ops, op.1 ≤ now) :
    let start : TtlCache κ ν := .new capacity ttl
    let c := stateAfter TtlCache.step start ops
    c.store.Consistent now
      ∧ c.capacity = start.capacity ∧ c.ttl = start.ttl ∧ c.size ≤ c.capacity := by
  intro start c
  induction ops using List.reverseRecOn generalizing now with
  | nil => exact ⟨.empty 0 now, rfl, rfl, Nat.zero_le _⟩
  | append_singleton ops op ih =>
    obtain ⟨time, op⟩ := op
    obtain ⟨sorted, -, before⟩ := List.pairwise_append.1 sorted
    obtain ⟨consistent, capacity', ttl', size⟩ :=
      ih sorted fun x hx => before x hx (time, op) (List.mem_singleton_self _)
    have room : 1 ≤ (stateAfter TtlCache.step start ops).capacity :=
      capacity' ▸ Nat.le_max_right capacity 1
    have bounds := bounds_step (stateAfter TtlCache.step start ops) time op
    have stepped : c = ((stateAfter TtlCache.step start ops).step time op).2 := by
      simp [c, stateAfter]
    have next := ((simulates_reference consistent room).step op).2.consistent
    have last_le : time ≤ now := le (time, op) (by simp)
    rw [stepped]
    refine ⟨next.later last_le, bounds.1.trans capacity', bounds.2.trans ttl', ?_⟩
    rw [bounds.1]
    exact size_step consistent room size op

/-- What a cache that was empty remembers of a key after a run, and how much it stores. -/
theorem remembers_run (capacity ttl : Nat) (key : κ) {ops : List (Nat × CacheOp κ ν)}
    (sorted : ops.Pairwise (·.1 ≤ ·.1)) {now : Nat} (le : ∀ op ∈ ops, op.1 ≤ now) :
    let start : TtlCache κ ν := .new capacity ttl
    let c := stateAfter TtlCache.step start ops
    c.Remembers now key (lastAdded key (start.history ops)) (usedSince key (start.history ops))
      ∧ c.capacity = start.capacity ∧ c.ttl = start.ttl ∧ c.size ≤ c.capacity := by
  intro start c
  refine ⟨?remembers, (consistent_run capacity ttl sorted le).2⟩
  induction ops using List.reverseRecOn generalizing now with
  | nil => exact .new capacity ttl now key
  | append_singleton ops op ih =>
    obtain ⟨time, op⟩ := op
    obtain ⟨sorted, -, before⟩ := List.pairwise_append.1 sorted
    have known := ih sorted fun x hx => before x hx (time, op) (List.mem_singleton_self _)
    have stepped : c = ((stateAfter TtlCache.step start ops).step time op).2 := by
      simp [c, stateAfter]
    have last_le : time ≤ now := le (time, op) (by simp)
    rw [stepped, history_concat]
    exact (known.step op).later last_le

/-- A look-up finds nothing but what was last stored under its key, and that not after the time to
live. It does find it within the time to live if fewer other keys than there is room for were used
since the key was. There are never more entries than there is room for. -/
theorem get_of_history (capacity ttl : Nat) (key : κ) {ops : List (Nat × CacheOp κ ν)}
    (sorted : ops.Pairwise (·.1 ≤ ·.1)) {now : Nat} (le : ∀ op ∈ ops, op.1 ≤ now) :
    let start : TtlCache κ ν := .new capacity ttl
    let c := stateAfter TtlCache.step start ops
    let last := lastAdded key (start.history ops)
    (∀ value, (c.get now key).1 = some value → ∃ t, last = some (t, value) ∧ now ≤ t + ttl)
      ∧ (∀ t value, last = some (t, value) → now ≤ t + ttl →
        (usedSince key (start.history ops)).card < max 1 capacity →
        (c.get now key).1 = some value)
      ∧ c.size ≤ max 1 capacity := by
  intro start c last
  obtain ⟨known, room, life, size⟩ := remembers_run capacity ttl key sorted le
  have capacity_eq : c.capacity = max 1 capacity := room.trans (Nat.max_comm capacity 1)
  have ttl_eq : c.ttl = ttl := life
  refine ⟨?only, ?surely, capacity_eq ▸ size⟩
  case only =>
    intro value found
    obtain ⟨t, hl, young⟩ := known.last_of_get found
    exact ⟨t, hl, ttl_eq ▸ young⟩
  case surely =>
    intro t value hl young few
    exact known.get_eq_some hl (ttl_eq.symm ▸ young) (capacity_eq.symm ▸ few)

/-- In a cache of two, a hit saves a key from the one that comes after it, which takes the place of
the other; that other was asked for, which is no use. The value that is saved is found up to the end
of its life. -/
theorem get_of_history_saved :
    let ops : List (Nat × CacheOp Nat String) :=
      [(0, .add 1 "a"), (5, .add 2 "b"), (6, .get 1), (7, .contains 2), (8, .add 3 "c"),
        (9, .get 2), (9, .purgeExpired)]
    let c := stateAfter TtlCache.step (.new 2 10) ops
    ops.Pairwise (·.1 ≤ ·.1) ∧ (∀ op ∈ ops, op.1 ≤ 10)
      ∧ usedSince 1 ((TtlCache.new 2 10).history ops) = {3}
      ∧ (c.get 10 1).1 = some "a" ∧ (c.get 11 1).1 = none := by
  intro ops c
  have sorted : ops.Pairwise (·.1 ≤ ·.1) := by decide
  have le : ∀ op ∈ ops, op.1 ≤ 10 := by decide
  have last : lastAdded 1 ((TtlCache.new 2 10).history ops) = some (0, "a") := by decide +kernel
  have used : usedSince 1 ((TtlCache.new 2 10).history ops) = {3} := by decide +kernel
  refine ⟨sorted, le, used, ?_, ?_⟩
  · exact (get_of_history 2 10 1 sorted le).2.1 0 "a" last (by decide) (by rw [used]; decide)
  · refine Option.eq_none_iff_forall_ne_some.2 fun value found => ?_
    obtain ⟨t, hl, young⟩ := (get_of_history 2 10 1 sorted fun op h => (le op h).trans
      (Nat.le_succ 10)).1 value found
    obtain ⟨rfl, -⟩ := Prod.mk.inj (Option.some.inj (last.symm.trans hl))
    omega

end TtlCache

end TorznabGateway
