import Mathlib.Data.Finset.Card
import Mathlib.Data.Finset.Dedup
import TorznabGateway.Proofs.Cache.Reference

/-!
# What a cache remembers

A cache may forget at any time, but never makes anything up: what it finds under a key is what was
last stored there, and that not longer ago than the time to live. And it forgets for a reason: a
value that is young enough is found as long as fewer other keys than the capacity were used since
its own key was.

## Main definitions

* `Remembered.HeldIn`: an entry of a list behind which only entries of given keys stand.
* `afterUse`: the other keys used since a key was, one use later.
* `TtlCache.Remembers`: what a cache remembers of one key, given what was last stored under it and
  the other keys used since.
* `TtlCache.Holds`: a value that is stored under a key, whether it can still be found or not.

## Main statements

* `TtlCache.Remembers.last_of_get`, `.get_eq_some`: only what was last stored is found, and it is
  found if it should be.
* `TtlCache.Remembers.get`, `.add`: both are kept true by looking up and storing.
* `TtlCache.Holds.of_get`, `.of_add`: nothing is held that was not stored.
-/
namespace TorznabGateway

variable {κ ν : Type}

/-! ## Held entries -/

namespace Remembered

variable {r : Remembered κ ν} {items : List (Remembered κ ν)} {used : Finset κ} {key : κ}

/-- Whether a list of entries, the longest unused first, holds an entry, and all that were used
later have one of the given keys. -/
def HeldIn (r : Remembered κ ν) (items : List (Remembered κ ν)) (used : Finset κ) : Prop :=
  ∃ older newer, items = older ++ r :: newer ∧ ∀ x ∈ newer, x.key ∈ used

theorem HeldIn.mem (h : r.HeldIn items used) : r ∈ items := by
  obtain ⟨older, newer, rfl, -⟩ := h
  simp

/-- An entry that was just used. -/
theorem heldIn_append_self (r : Remembered κ ν) (items : List (Remembered κ ν)) :
    r.HeldIn (items ++ [r]) ∅ :=
  ⟨items, [], rfl, by simp⟩

theorem HeldIn.filter (h : r.HeldIn items used) {p : Remembered κ ν → Bool} (kept : p r) :
    r.HeldIn (items.filter p) used := by
  obtain ⟨older, newer, rfl, later⟩ := h
  refine ⟨older.filter p, newer.filter p, by simp [kept], ?_⟩
  intro x hx
  exact later x (List.mem_of_mem_filter hx)

variable [DecidableEq κ]

theorem HeldIn.append (h : r.HeldIn items used) (x : Remembered κ ν) :
    r.HeldIn (items ++ [x]) (insert x.key used) := by
  obtain ⟨older, newer, rfl, later⟩ := h
  refine ⟨older, newer ++ [x], by simp, ?_⟩
  intro y hy
  grind

/-- A key that is not stored was not used later. -/
theorem HeldIn.erase (h : r.HeldIn items used) (absent : ∀ x ∈ items, x.key ≠ key) :
    r.HeldIn items (used.erase key) := by
  obtain ⟨older, newer, rfl, later⟩ := h
  refine ⟨older, newer, rfl, ?_⟩
  intro x hx
  exact Finset.mem_erase.2 ⟨absent x (by simp [hx]), later x hx⟩

/-- An entry is not the head of a list that is too long for what was used later. -/
theorem HeldIn.tail (h : r.HeldIn items used) (nodup : (items.map (·.key)).Nodup)
    (long : used.card + 1 < items.length) : r.HeldIn items.tail used := by
  obtain ⟨older, newer, rfl, later⟩ := h
  cases older with
  | cons x older => exact ⟨older, newer, rfl, later⟩
  | nil =>
    have distinct : (newer.map (·.key)).Nodup := by
      rw [List.nil_append, List.map_cons, List.nodup_cons] at nodup
      exact nodup.2
    have sub : (newer.map (·.key)).toFinset ⊆ used := by
      intro k hk
      obtain ⟨x, hx, rfl⟩ := List.mem_map.1 (List.mem_toFinset.1 hk)
      exact later x hx
    have few := Finset.card_le_card sub
    rw [List.toFinset_card_of_nodup distinct, List.length_map] at few
    simp only [List.nil_append, List.length_cons] at long
    omega

end Remembered

/-! ## One operation on the list -/

variable [DecidableEq κ]

/-- The keys other than `key` used since `key` was, when `k` is used next. -/
def afterUse (key k : κ) (used : Finset κ) : Finset κ :=
  if k = key then ∅ else insert k used

@[simp] theorem afterUse_self (key : κ) (used : Finset κ) : afterUse key key used = ∅ :=
  if_pos rfl

theorem afterUse_of_ne {key k : κ} (h : k ≠ key) (used : Finset κ) :
    afterUse key k used = insert k used :=
  if_neg h

@[simp] theorem afterUse_afterUse (key k : κ) (used : Finset κ) :
    afterUse key k (afterUse key k used) = afterUse key k used := by
  by_cases h : k = key <;> simp [afterUse, h]

namespace RecencyCache

variable {m : RecencyCache κ ν} {r : Remembered κ ν} {used : Finset κ} {now : Nat} {key : κ}

theorem mem_get (h : r ∈ (m.get now key).2.items) : r ∈ m.items := by
  rw [get] at h
  cases found : m.items.find? (·.key = key) with
  | none => simpa [found] using h
  | some x =>
    have stored := List.mem_of_find?_eq_some found
    grind [others]

theorem mem_add {value : ν} (h : r ∈ (m.add now key value).items) :
    r = ⟨key, value, now⟩ ∨ r ∈ m.items ∧ r.key ≠ key := by
  unfold add at h
  by_cases known : m.items.any (·.key = key)
  · grind [others]
  · have absent : ∀ x ∈ m.items, x.key ≠ key := by simpa using known
    have tail := fun x => List.mem_of_mem_tail (l := m.fresh now) (a := x)
    grind [fresh]

/-- A value is found if it is stored and young enough. -/
theorem get_eq_some_iff (nodup : (m.items.map (·.key)).Nodup) {value : ν} :
    (m.get now key).1 = some value
      ↔ ∃ t, ⟨key, value, t⟩ ∈ m.items ∧ now ≤ t + m.ttl := by
  have young_iff (x : Remembered κ ν) : x.isFresh m.ttl now ↔ now ≤ x.insertedAt + m.ttl := by
    rw [Remembered.isFresh, decide_eq_true_iff]
    omega
  rw [get]
  cases found : m.items.find? (·.key = key) with
  | none =>
    have absent := List.find?_eq_none.1 found
    simp only [reduceCtorEq, false_iff]
    rintro ⟨t, stored, -⟩
    exact absent _ stored (decide_eq_true rfl)
  | some x =>
    have stored := List.mem_of_find?_eq_some found
    have same : x.key = key := by simpa using List.find?_some found
    constructor
    · intro hit
      by_cases young : x.isFresh m.ttl now
      · obtain rfl : x.value = value := by simpa [young] using hit
        subst same
        exact ⟨x.insertedAt, stored, (young_iff x).1 young⟩
      · simp [young] at hit
    · rintro ⟨t, other, young⟩
      obtain rfl : x = ⟨key, value, t⟩ := List.inj_on_of_nodup_map nodup stored other same
      simp [(young_iff ⟨key, value, t⟩).2 young]

/-- A hit makes its entry the last. -/
theorem heldIn_get_self (found : (m.get now key).1.isSome) :
    ∃ r ∈ m.items, r.key = key ∧ r.HeldIn (m.get now key).2.items ∅ := by
  rw [get] at found ⊢
  cases hx : m.items.find? (·.key = key) with
  | none => simp [hx] at found
  | some x =>
    have same : x.key = key := by simpa using List.find?_some hx
    by_cases young : x.isFresh m.ttl now
    · simp only [young, if_true]
      exact ⟨x, List.mem_of_find?_eq_some hx, same, x.heldIn_append_self _⟩
    · simp [hx, young] at found

theorem heldIn_get_other (h : r.HeldIn m.items used) (other : key ≠ r.key) :
    r.HeldIn (m.get now key).2.items
      (if (m.get now key).1.isSome then insert key used else used) := by
  have kept : r.HeldIn (m.others key) used := h.filter (by simp [Ne.symm other])
  rw [get]
  cases hx : m.items.find? (·.key = key) with
  | none => simpa using h
  | some x =>
    have same : x.key = key := by simpa using List.find?_some hx
    by_cases young : x.isFresh m.ttl now
    · simpa [young, same] using kept.append x
    · simpa [young] using kept

theorem heldIn_add_self (m : RecencyCache κ ν) (now : Nat) (key : κ) (value : ν) :
    (⟨key, value, now⟩ : Remembered κ ν).HeldIn (m.add now key value).items ∅ := by
  rw [add]
  repeat' split
  all_goals exact Remembered.heldIn_append_self _ _

theorem heldIn_add_other (h : r.HeldIn m.items used) (nodup : (m.items.map (·.key)).Nodup)
    (other : key ≠ r.key) (young : r.isFresh m.ttl now)
    (few : (insert key used).card < max 1 m.capacity) (value : ν) :
    r.HeldIn (m.add now key value).items (insert key used) := by
  have kept : r.HeldIn (m.others key) used := h.filter (by simp [Ne.symm other])
  have fresh : r.HeldIn (m.fresh now) used := h.filter young
  rw [add]
  split
  · exact kept.append ⟨key, value, now⟩
  next unknown =>
    have absent : ∀ x ∈ m.items, x.key ≠ key := by simpa using unknown
    split
    · exact h.append ⟨key, value, now⟩
    split
    · exact fresh.append ⟨key, value, now⟩
    next full =>
      -- the head may go, for there are more entries than keys used since
      have unused : r.HeldIn (m.fresh now) (used.erase key) :=
        fresh.erase fun x hx => absent x (List.mem_of_mem_filter hx)
      have one_less : (used.erase key).card + 1 = (insert key used).card := by
        rw [← Finset.erase_insert_eq_erase, Finset.card_erase_add_one (Finset.mem_insert_self _ _)]
      have tail := unused.tail (nodup.sublist (List.filter_sublist.map _)) (by omega)
      have stored := tail.append ⟨key, value, now⟩
      rwa [← Finset.erase_insert_eq_erase,
        Finset.insert_erase (Finset.mem_insert_self _ _)] at stored

end RecencyCache

/-! ## One key of a cache -/

namespace TtlCache

variable {c : TtlCache κ ν} {now : Nat} {key : κ} {last : Option (Nat × ν)} {used : Finset κ}

/-- The reference that stands for a cache. -/
def reference (c : TtlCache κ ν) : RecencyCache κ ν where
  capacity := c.capacity
  ttl := c.ttl
  items := c.store.recency
  hits := c.hits
  misses := c.misses
  evictions := c.evictions

theorem simulates_reference (consistent : c.store.Consistent now) (room : 1 ≤ c.capacity) :
    Simulates now c c.reference where
  consistent := consistent
  items := rfl
  capacity := (Nat.max_eq_right room).symm
  ttl := rfl
  counts := rfl

@[simp] theorem capacity_get (c : TtlCache κ ν) (now : Nat) (key : κ) :
    (c.get now key).2.capacity = c.capacity := by
  unfold get
  grind

@[simp] theorem ttl_get (c : TtlCache κ ν) (now : Nat) (key : κ) :
    (c.get now key).2.ttl = c.ttl := by
  unfold get
  grind

@[simp] theorem capacity_add (c : TtlCache κ ν) (now : Nat) (key : κ) (value : ν) :
    (c.add now key value).capacity = c.capacity := by
  simp only [add, makeRoom, purgeExpired, evictOne]
  grind

@[simp] theorem ttl_add (c : TtlCache κ ν) (now : Nat) (key : κ) (value : ν) :
    (c.add now key value).ttl = c.ttl := by
  simp only [add, makeRoom, purgeExpired, evictOne]
  grind

/-- What a cache remembers of one key at time `now`, when `last` is what was last stored under it,
with the time, and `used` holds the other keys that were used since it was used. -/
structure Remembers (c : TtlCache κ ν) (now : Nat) (key : κ) (last : Option (Nat × ν))
    (used : Finset κ) : Prop where
  consistent : c.store.Consistent now
  room : 1 ≤ c.capacity
  /-- Only what was last stored can be found. -/
  sound : ∀ r ∈ c.store.recency, r.key = key → last = some (r.insertedAt, r.value)
  /-- It is found while it is young and few other keys were used. -/
  held : ∀ t value, last = some (t, value) → now ≤ t + c.ttl → used.card < c.capacity →
    (⟨key, value, t⟩ : Remembered κ ν).HeldIn c.store.recency used

theorem Remembers.new (capacity ttl now : Nat) (key : κ) :
    (TtlCache.new capacity ttl : TtlCache κ ν).Remembers now key none ∅ where
  consistent := .empty 0 now
  room := Nat.le_max_right capacity 1
  sound := by
    intro r stored
    cases stored
  held := by simp

theorem Remembers.later (h : c.Remembers now key last used) {next : Nat} (le : now ≤ next) :
    c.Remembers next key last used where
  consistent := h.consistent.later le
  room := h.room
  sound := h.sound
  held t value hl young := h.held t value hl (le.trans young)

/-- What is found under a key was last stored there, and not too long ago. -/
theorem Remembers.last_of_get (h : c.Remembers now key last used) {value : ν}
    (found : (c.get now key).1 = some value) : ∃ t, last = some (t, value) ∧ now ≤ t + c.ttl := by
  have sim := simulates_reference h.consistent h.room
  rw [(sim.get key).1, RecencyCache.get_eq_some_iff h.consistent.nodup_recency] at found
  obtain ⟨t, stored, young⟩ := found
  exact ⟨t, h.sound _ stored rfl, young⟩

/-- What was last stored under a key is found while it is young and few other keys were used. -/
theorem Remembers.get_eq_some (h : c.Remembers now key last used) {t : Nat} {value : ν}
    (hl : last = some (t, value)) (young : now ≤ t + c.ttl) (few : used.card < c.capacity) :
    (c.get now key).1 = some value := by
  have sim := simulates_reference h.consistent h.room
  rw [(sim.get key).1, RecencyCache.get_eq_some_iff h.consistent.nodup_recency]
  exact ⟨t, (h.held t value hl young few).mem, young⟩

/-- A look-up under any key. A hit is a use. -/
theorem Remembers.get (h : c.Remembers now key last used) (k : κ) :
    (c.get now k).2.Remembers now key last
      (if (c.get now k).1.isSome then afterUse key k used else used) := by
  have sim := simulates_reference h.consistent h.room
  obtain ⟨answer, after⟩ := sim.get k
  refine ⟨after.consistent, ?_, ?_, ?_⟩
  · rw [capacity_get]
    exact h.room
  · intro r stored same
    rw [← after.items] at stored
    exact h.sound r (RecencyCache.mem_get stored) same
  · intro t value hl young few
    rw [ttl_get] at young
    rw [capacity_get] at few
    rw [← after.items]
    by_cases same : k = key
    · subst same
      by_cases hit : (c.get now k).1.isSome
      · rw [if_pos hit, afterUse_self]
        obtain ⟨r, stored, rfl, held⟩ := RecencyCache.heldIn_get_self (answer ▸ hit)
        obtain ⟨rfl, rfl⟩ := Prod.mk.inj (Option.some.inj (hl.symm.trans (h.sound r stored rfl)))
        exact held
      · rw [if_neg hit] at few
        exact absurd (by rw [h.get_eq_some hl young few]; rfl) hit
    · have before : used.card < c.capacity := by
        refine Nat.lt_of_le_of_lt (Finset.card_le_card ?_) few
        rw [afterUse_of_ne same]
        split
        · exact Finset.subset_insert k used
        · exact Finset.Subset.refl used
      rw [afterUse_of_ne same, answer]
      exact RecencyCache.heldIn_get_other (h.held t value hl young before) same

/-- A value stored under any key. -/
theorem Remembers.add (h : c.Remembers now key last used) (k : κ) (value : ν) :
    (c.add now k value).Remembers now key (if k = key then some (now, value) else last)
      (afterUse key k used) := by
  have sim := simulates_reference h.consistent h.room
  have after := sim.add k value
  refine ⟨after.consistent, ?_, ?_, ?_⟩
  · rw [capacity_add]
    exact h.room
  · intro r stored same
    rw [← after.items] at stored
    rcases RecencyCache.mem_add stored with rfl | ⟨stored, other⟩
    · rw [if_pos same]
    · rw [if_neg fun eq => other (same.trans eq.symm)]
      exact h.sound r stored same
  · intro t v hl young few
    rw [ttl_add] at young
    rw [capacity_add] at few
    rw [← after.items]
    by_cases same : k = key
    · rw [if_pos same] at hl
      obtain ⟨rfl, rfl⟩ := Prod.mk.inj (Option.some.inj hl)
      subst same
      rw [afterUse_self]
      exact RecencyCache.heldIn_add_self c.reference _ k _
    · rw [if_neg same] at hl
      rw [afterUse_of_ne same] at few ⊢
      have before := Nat.lt_of_le_of_lt (Finset.card_le_card (Finset.subset_insert k used)) few
      have fresh : (⟨key, v, t⟩ : Remembered κ ν).isFresh c.reference.ttl now := by
        refine decide_eq_true ?_
        dsimp only [reference]
        omega
      exact RecencyCache.heldIn_add_other (h.held t v hl young before) h.consistent.nodup_recency
        same fresh (few.trans_le (Nat.le_max_right 1 c.capacity)) value

end TtlCache

/-! ## Whatever the times -/

namespace CacheStore

variable {s : CacheStore κ ν} {key : κ} {e : CacheEntry ν}

theorem find?_of_remove {k : κ} (h : (s.remove k).find? key = some e) : s.find? key = some e := by
  rw [find?_remove] at h
  by_cases same : key = k
  · rw [same, Function.update_self] at h
    cases h
  · rwa [Function.update_of_ne same] at h

theorem find?_of_purge {ttl now : Nat} (h : (purge ttl now s).1.find? key = some e) :
    s.find? key = some e := by
  fun_induction purge ttl now s with
  | case1 s empty => exact h
  | case2 s k first absent => exact h
  | case3 s k first x found expired rest purged purge_rest ih =>
    rw [purge_rest] at ih
    exact find?_of_remove (ih h)
  | case4 s k first x found fresh => exact h

theorem find?_of_evict (h : s.evict.1.find? key = some e) : s.find? key = some e := by
  unfold evict at h
  cases first : s.byAccess.first? with
  | none => simpa [first] using h
  | some k => exact find?_of_remove (by simpa [first] using h)

end CacheStore

namespace TtlCache

variable {c : TtlCache κ ν} {now : Nat} {key k : κ} {value v : ν}

/-- Whether a value is stored under a key, too old or not. -/
def Holds (c : TtlCache κ ν) (key : κ) (value : ν) : Prop :=
  ∃ e, c.store.find? key = some e ∧ e.value = value

theorem not_holds_new (capacity ttl : Nat) : ¬(TtlCache.new capacity ttl).Holds key value := by
  rintro ⟨e, found, -⟩
  cases found

theorem holds_of_get (h : (c.get now key).1 = some value) : c.Holds key value := by
  unfold get at h
  cases found : c.store.find? key with
  | none => simp [found] at h
  | some e => exact ⟨e, found, by grind⟩

/-- A look-up stores nothing. -/
theorem Holds.of_get (h : (c.get now k).2.Holds key value) : c.Holds key value := by
  obtain ⟨e, found, rfl⟩ := h
  unfold get at found
  cases stored : c.store.find? k with
  | none => exact ⟨e, by simpa [stored] using found, rfl⟩
  | some x =>
    by_cases old : CacheStore.isExpired c.ttl now x
    · simp only [stored, old, if_true] at found
      exact ⟨e, CacheStore.find?_of_remove found, rfl⟩
    · simp only [stored, if_neg old, CacheStore.find?_touch stored] at found
      by_cases same : key = k
      · subst same
        rw [Function.update_self] at found
        cases found
        exact ⟨x, stored, rfl⟩
      · exact ⟨e, by rwa [Function.update_of_ne same] at found, rfl⟩

theorem find?_of_makeRoom {e : CacheEntry ν} (h : (c.makeRoom now).store.find? key = some e) :
    c.store.find? key = some e := by
  unfold makeRoom at h
  dsimp only at h
  split at h
  · exact CacheStore.find?_of_purge (CacheStore.find?_of_evict h)
  · exact CacheStore.find?_of_purge h

/-- What is held after a value was stored is that value, or was held before under another key. -/
theorem Holds.of_add (h : (c.add now k v).Holds key value) :
    (key = k ∧ value = v) ∨ key ≠ k ∧ c.Holds key value := by
  obtain ⟨e, found, rfl⟩ := h
  simp only [add, CacheStore.find?_insert] at found
  by_cases same : key = k
  · subst same
    rw [Function.update_self] at found
    cases found
    exact .inl ⟨rfl, rfl⟩
  · rw [Function.update_of_ne same] at found
    refine .inr ⟨same, e, ?_, rfl⟩
    split at found
    · exact find?_of_makeRoom found
    · exact found

/-- A look-up that finds nothing adds no entry, and takes none that is fresh. -/
theorem find?_of_get_eq_none (miss : (c.get now key).1 = none) (k : κ) (e : CacheEntry ν) :
    ((c.get now key).2.store.find? k = some e → c.store.find? k = some e)
      ∧ (c.store.find? k = some e → CacheStore.isExpired c.ttl now e = false →
        (c.get now key).2.store.find? k = some e) := by
  unfold get at miss ⊢
  cases stored : c.store.find? key with
  | none => exact ⟨id, fun found _ => found⟩
  | some x =>
    by_cases old : CacheStore.isExpired c.ttl now x
    · simp only [old, if_true, CacheStore.find?_remove]
      grind
    · simp [stored, old] at miss

end TtlCache

end TorznabGateway
