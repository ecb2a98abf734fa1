import Mathlib.Logic.Relation
import TorznabGateway.Proofs.Cache.WorkingSet
import TorznabGateway.Proofs.Keyed

/-!
# The parts of a cache agree

The indexes of a store could be computed from its entries, up to order: each is a rearrangement of
the stored keys under the ticks of their entries. Along the insertion index the entries are in the
order of their age, which is what a purge relies on when it stops at the first fresh entry.

## Main definitions

* `CacheStore.Agrees`: the entries, the two indexes and the counter agree.
* `CacheStore.purgeStep?`: one pass of the purge loop.
* `CacheStore.DropsOldest`: a store without its oldest entry.

## Main statements

* `CacheStore.Consistent.agrees`: the parts of a consistent store agree.
* `CacheStore.Consistent.dropsOldest`, `.fresh_of_stop`: what a pass of the purge loop does, and
  what is left when the loop stops.
* `TtlCache.agrees_of_reachable`: the parts of a cache agree after every run, so that a purge ends
  with no expired entry left.
-/
namespace TorznabGateway

variable {κ ν : Type}

/-- The head of an ascending index is the only key under its tick. -/
theorem TickIndex.erase_head {tick : Nat} {key : κ} {rest : TickIndex κ}
    (ascending : ((tick, key) :: rest).Pairwise (·.1 < ·.1)) :
    TickIndex.erase tick ((tick, key) :: rest) = rest := by
  have later := (List.pairwise_cons.1 ascending).1
  rw [erase, List.filter_cons_of_neg (by simp)]
  refine List.filter_eq_self.2 fun x hx => ?_
  have := later x hx
  simp only [bne_iff_ne, ne_eq]
  omega

namespace CacheStore

variable [DecidableEq κ] {s t : CacheStore κ ν} {ttl now : Nat} {key : κ} {e : CacheEntry ν}

/-! ## Agreement -/

/-- Whether the parts of a store agree: each index lists every stored key once, under its tick and
in the order of the ticks. -/
structure Agrees (s : CacheStore κ ν) : Prop where
  /-- No key is stored twice. -/
  keys : (s.entries.map (·.1)).Nodup
  byAccess : s.byAccess.Perm (s.entries.map fun x => (x.2.lastAccess, x.1))
  byInsert : s.byInsert.Perm (s.entries.map fun x => (x.2.insertedTick, x.1))
  accessAscending : s.byAccess.Pairwise (·.1 < ·.1)
  insertAscending : s.byInsert.Pairwise (·.1 < ·.1)
  /-- No tick is ahead of the counter. -/
  ticks : ∀ x ∈ s.entries, x.2.lastAccess ≤ s.tick ∧ x.2.insertedTick ≤ s.tick
  /-- Along the insertion index no entry is older than the one before it. -/
  aged : (s.byInsert.view s.find?).Pairwise (·.insertedAt ≤ ·.insertedAt)

theorem find?_eq_some (keys : (s.entries.map (·.1)).Nodup) :
    s.find? key = some e ↔ (key, e) ∈ s.entries := by
  rw [find?, Option.map_eq_some_iff]
  constructor
  · rintro ⟨x, found, rfl⟩
    have same : x.1 = key := by simpa using List.find?_some found
    exact same ▸ List.mem_of_find?_eq_some found
  · intro stored
    exact ⟨(key, e), find?_eq_some_of_nodup keys stored (by simp) (by simp), rfl⟩

/-- An index of the stored keys is a rearrangement of them under their ticks. -/
theorem perm_of_files {index : TickIndex κ} {tickOf : CacheEntry ν → Nat}
    (keys : (s.entries.map (·.1)).Nodup) (h : index.Files tickOf s.find?) :
    index.Perm (s.entries.map fun x => (tickOf x.2, x.1)) := by
  have listed : index.Nodup := h.ascending.imp fun lt same => Nat.ne_of_lt lt (congrArg _ same)
  have stored : (s.entries.map fun x => (tickOf x.2, x.1)).Nodup := by
    refine List.Nodup.of_map Prod.snd ?_
    rwa [List.map_map]
  refine (List.perm_ext_iff_of_nodup listed stored).2 fun x => ?_
  rw [h.mem_iff, List.mem_map]
  constructor
  · rintro ⟨e, found, ht⟩
    exact ⟨(x.2, e), (find?_eq_some keys).1 found, Prod.ext ht rfl⟩
  · rintro ⟨y, hy, rfl⟩
    exact ⟨y.2, (find?_eq_some keys).2 hy, rfl⟩

theorem Consistent.agrees (h : s.Consistent now) : s.Agrees where
  keys := h.keys
  byAccess := perm_of_files h.keys h.byAccess
  byInsert := perm_of_files h.keys h.byInsert
  accessAscending := h.byAccess.ascending
  insertAscending := h.byInsert.ascending
  ticks x hx := h.ticks x.1 x.2 ((find?_eq_some h.keys).2 hx)
  aged := by
    refine List.pairwise_filterMap.2 (h.byInsert.ascending.imp_of_mem ?_)
    intro x y hx hy lt r hr q hq
    obtain ⟨e, he, te⟩ := (h.byInsert.mem_iff x.1 x.2).1 hx
    obtain ⟨f, hf, tf⟩ := (h.byInsert.mem_iff y.1 y.2).1 hy
    obtain rfl : Remembered.ofEntry x.2 e = r := by simpa [he] using hr
    obtain rfl : Remembered.ofEntry y.2 f = q := by simpa [hf] using hq
    exact h.aged x.2 e y.2 f he hf (by omega)

/-! ## The purge loop -/

/-- One pass of the purge loop: the oldest entry is taken out if it has expired, and otherwise the
loop stops. -/
def purgeStep? (ttl now : Nat) (s : CacheStore κ ν) : Option (CacheStore κ ν) :=
  s.byInsert.first?.bind fun key =>
    (s.find? key).bind fun e => if isExpired ttl now e then some (s.remove key) else none

theorem purgeStep?_eq_some :
    s.purgeStep? ttl now = some t ↔ ∃ key e, s.byInsert.first? = some key
      ∧ s.find? key = some e ∧ isExpired ttl now e ∧ s.remove key = t := by
  simp [purgeStep?, Option.bind_eq_some_iff]

/-- Whether a pass of the purge loop leads from one store to the next. -/
def PurgeStep (ttl now : Nat) (s t : CacheStore κ ν) : Prop :=
  s.purgeStep? ttl now = some t

/-- Whether `t` is `s` without its entry `e` under `key`, which was at the head of the insertion
index. -/
structure DropsOldest (s t : CacheStore κ ν) (key : κ) (e : CacheEntry ν) : Prop where
  entries : s.entries.Perm ((key, e) :: t.entries)
  byAccess : s.byAccess.Perm ((e.lastAccess, key) :: t.byAccess)
  byInsert : s.byInsert = (e.insertedTick, key) :: t.byInsert

theorem entries_remove (s : CacheStore κ ν) (key : κ) :
    (s.remove key).entries = s.entries.filter (·.1 ≠ key) := by
  unfold remove
  split
  · next absent =>
    refine (List.filter_eq_self.2 fun x hx => ?_).symm
    exact decide_eq_true (find?_eq_none.1 absent x hx)
  · rfl

theorem perm_entries_remove (keys : (s.entries.map (·.1)).Nodup) (found : s.find? key = some e) :
    s.entries.Perm ((key, e) :: (s.remove key).entries) := by
  have split_at := List.filter_append_perm (·.1 == key) s.entries
  have one : s.entries.filter (·.1 == key) = [(key, e)] := by
    rw [filter_key_eq_toList_find? keys,
      (find?_key_eq_some_iff keys).2 ⟨(find?_eq_some keys).1 found, rfl⟩]
    rfl
  have rest : s.entries.filter (fun x => !(x.1 == key)) = (s.remove key).entries := by
    rw [entries_remove]
    exact List.filter_congr fun x _ => by simp [Bool.beq_eq_decide_eq]
  rw [one, rest] at split_at
  exact split_at.symm

/-- Taking out the key at the head of the insertion index. -/
theorem Consistent.dropsOldest (h : s.Consistent now) (first : s.byInsert.first? = some key)
    (found : s.find? key = some e) : s.DropsOldest (s.remove key) key e := by
  have entries := perm_entries_remove h.keys found
  have after := (h.remove key).agrees
  refine ⟨entries, ?byAccess, ?byInsert⟩
  case byAccess =>
    have without : (s.entries.map fun x => (x.2.lastAccess, x.1)).Perm
        ((e.lastAccess, key) :: (s.remove key).byAccess) :=
      (entries.map _).trans (after.byAccess.symm.cons _)
    exact h.agrees.byAccess.trans without
  case byInsert =>
    obtain ⟨tick, rest, index⟩ := TickIndex.first?_eq_some.1 first
    obtain ⟨f, hf, ht⟩ := (h.byInsert.mem_iff tick key).1 (index ▸ List.mem_cons_self)
    obtain rfl : f = e := Option.some.inj (hf.symm.trans found)
    have ascending := h.byInsert.ascending
    have left : (s.remove key).byInsert = s.byInsert.erase f.insertedTick := by
      rw [CacheStore.remove, found]
    rw [left, index, ht]
    rw [index] at ascending
    rw [TickIndex.erase_head ascending]

theorem Consistent.of_purgeStep (h : s.Consistent now) (step : PurgeStep ttl now s t) :
    t.Consistent now ∧ ∃ key e, isExpired ttl now e ∧ s.DropsOldest t key e := by
  obtain ⟨key, e, first, found, old, rfl⟩ := purgeStep?_eq_some.1 step
  exact ⟨h.remove key, key, e, old, h.dropsOldest first found⟩

theorem Consistent.of_purgeSteps (h : s.Consistent now)
    (steps : Relation.ReflTransGen (PurgeStep ttl now) s t) : t.Consistent now := by
  induction steps with
  | refl => exact h
  | tail _ step before => exact (before.of_purgeStep step).1

/-- The purge loop does not stop before the last expired entry is gone. -/
theorem Consistent.fresh_of_stop (h : s.Consistent now) (stop : s.purgeStep? ttl now = none) :
    ∀ x ∈ s.entries, isExpired ttl now x.2 = false := by
  intro x hx
  have stored : s.find? x.1 = some x.2 := (find?_eq_some h.keys).2 hx
  cases first : s.byInsert.first? with
  | none =>
    have filed := (h.byInsert.mem_iff _ _).2 ⟨x.2, stored, rfl⟩
    rw [TickIndex.first?_eq_none.1 first] at filed
    cases filed
  | some key =>
    obtain ⟨e, found⟩ := h.byInsert.find_first first
    have fresh : isExpired ttl now e = false := by simpa [purgeStep?, first, found] using stop
    have all := h.isFresh_of_oldest first found fresh (.ofEntry x.1 x.2)
      (h.mem_recency.2 ⟨x.2, stored, rfl⟩)
    rwa [Remembered.isFresh_ofEntry, Bool.not_eq_true'] at all

/-- The purge loop ends at what a purge leaves: the entries that have not expired. -/
theorem Consistent.purge_loop (h : s.Consistent now) (ttl : Nat) :
    Relation.ReflTransGen (PurgeStep ttl now) s (CacheStore.purge ttl now s).1
      ∧ (CacheStore.purge ttl now s).1.purgeStep? ttl now = none
      ∧ (CacheStore.purge ttl now s).1.entries.Perm
        (s.entries.filter fun x => !isExpired ttl now x.2)
      ∧ (CacheStore.purge ttl now s).2 = s.entries.countP fun x => isExpired ttl now x.2 := by
  have stopped {s : CacheStore κ ν} (h : s.Consistent now) (stop : s.purgeStep? ttl now = none) :
      s.entries.Perm (s.entries.filter fun x => !isExpired ttl now x.2)
        ∧ 0 = s.entries.countP fun x => isExpired ttl now x.2 := by
    have fresh := h.fresh_of_stop stop
    rw [List.filter_eq_self.2 fun x hx => by simp [fresh x hx]]
    exact ⟨.refl _, (List.countP_eq_zero.2 fun x hx => by simp [fresh x hx]).symm⟩
  fun_induction CacheStore.purge ttl now s with
  | case1 s empty =>
    have stop : s.purgeStep? ttl now = none := by simp [purgeStep?, empty]
    exact ⟨.refl, stop, stopped h stop⟩
  | case2 s key first absent =>
    obtain ⟨e, found⟩ := h.byInsert.find_first first
    rw [found] at absent
    cases absent
  | case3 s key first e found old left purged purge_rest ih =>
    have step : PurgeStep ttl now s (s.remove key) :=
      purgeStep?_eq_some.2 ⟨key, e, first, found, old, rfl⟩
    have entries := (h.dropsOldest first found).entries
    obtain ⟨steps, stop, kept, count⟩ := ih (h.remove key)
    rw [purge_rest] at steps stop kept count
    refine ⟨.head step steps, stop, kept.trans ?_, ?_⟩
    · have fewer := entries.filter fun x => !isExpired ttl now x.2
      rw [List.filter_cons_of_neg (by simp [old])] at fewer
      exact fewer.symm
    · rw [entries.countP_eq, List.countP_cons_of_pos (by exact old)]
      exact congrArg (· + 1) count
  | case4 s key first e found fresh =>
    have stop : s.purgeStep? ttl now = none := by simp [purgeStep?, first, found, fresh]
    exact ⟨.refl, stop, stopped h stop⟩

end CacheStore

/-! ## Reachable states -/

namespace TtlCache

variable [DecidableEq κ]

open CacheStore in
/-- After every run the parts of a cache agree, and it stores no more than there is room for. So
each pass of the purge loop takes one entry out of the map and out of each index, and one that has
expired; the loop ends, and what it leaves are the entries that have not expired. -/
theorem agrees_of_reachable (capacity ttl : Nat) {ops : List (Nat × CacheOp κ ν)}
    (sorted : ops.Pairwise (·.1 ≤ ·.1)) {now : Nat} (le : ∀ op ∈ ops, op.1 ≤ now) :
    let c := stateAfter TtlCache.step (.new capacity ttl) ops
    let left := (c.purgeExpired now).1.store
    c.store.Agrees ∧ c.size ≤ max 1 capacity
      ∧ (∀ s t, Relation.ReflTransGen (PurgeStep ttl now) c.store s → PurgeStep ttl now s t →
        ∃ key e, isExpired ttl now e ∧ s.DropsOldest t key e)
      ∧ Relation.ReflTransGen (PurgeStep ttl now) c.store left
      ∧ left.purgeStep? ttl now = none
      ∧ left.Agrees ∧ (∀ x ∈ left.entries, isExpired ttl now x.2 = false)
      ∧ left.entries.Perm (c.store.entries.filter fun x => !isExpired ttl now x.2)
      ∧ (c.purgeExpired now).2 = c.store.entries.countP fun x => isExpired ttl now x.2 := by
  intro c left
  obtain ⟨consistent, room, life, size⟩ := consistent_run capacity ttl sorted le
  have room : c.capacity = max 1 capacity := room.trans (Nat.max_comm capacity 1)
  have life : c.ttl = ttl := life
  obtain ⟨steps, stop, kept, count⟩ := consistent.purge_loop ttl
  have purged : left = (CacheStore.purge ttl now c.store).1 := life ▸ rfl
  have rest := consistent.of_purgeSteps steps
  have counted : (c.purgeExpired now).2 = (CacheStore.purge ttl now c.store).2 := life ▸ rfl
  rw [counted, purged]
  refine ⟨consistent.agrees, room ▸ size, ?_, steps, stop, rest.agrees, rest.fresh_of_stop stop,
    kept, count⟩
  intro s t reached step
  exact ((consistent.of_purgeSteps reached).of_purgeStep step).2

/-- A key that is stored again moves behind the others in the insertion index, and one that is found
in the recency index. The purge drops the key that was stored first, though it was used last. -/
theorem agrees_of_reachable_replaced :
    let ops : List (Nat × CacheOp Nat String) :=
      [(0, .add 1 "a"), (5, .add 2 "b"), (6, .add 1 "c"), (7, .get 2), (8, .contains 1)]
    let c := stateAfter TtlCache.step (.new 2 10) ops
    ops.Pairwise (·.1 ≤ ·.1) ∧ (∀ op ∈ ops, op.1 ≤ 16)
      ∧ c.store.byInsert = [(2, 2), (3, 1)] ∧ c.store.byAccess = [(3, 1), (4, 2)]
      ∧ c.store.Agrees ∧ c.size ≤ 2
      ∧ (c.purgeExpired 16).2 = 1 ∧ (c.purgeExpired 16).1.store.entries.map (·.1) = [1] := by
  intro ops c
  have sorted : ops.Pairwise (·.1 ≤ ·.1) := by decide
  have le : ∀ op ∈ ops, op.1 ≤ 16 := by decide
  obtain ⟨agrees, size, -, -, -, -, -, kept, count⟩ := agrees_of_reachable 2 10 sorted le
  refine ⟨sorted, le, by decide +kernel, by decide +kernel, agrees, size, ?_, ?_⟩
  · exact count.trans (by decide +kernel)
  · have keys :
        (c.store.entries.filter fun x => !CacheStore.isExpired 10 16 x.2).map (·.1) = [1] := by
      decide +kernel
    exact List.perm_singleton.1 (keys ▸ kept.map (·.1))

end TtlCache

end TorznabGateway
