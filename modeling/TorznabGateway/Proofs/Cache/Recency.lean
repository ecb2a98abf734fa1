import Mathlib.Data.List.Perm.Basic
import TorznabGateway.Proofs.Cache.Consistency

/-!
# A cache store as a list

What a consistent store holds is a list: its entries in the order of their last use, the longest
unused first. Every operation of the store is described by what it does to this list.

## Main definitions

* `CacheStore.recency`: the list of a store.

## Main statements

* `CacheStore.Consistent.recency_remove`, `.recency_insert`, `.recency_touch`: a key is taken out of
  the list, and may be put at its end again.
* `CacheStore.Consistent.purge`: a purge drops and counts exactly the expired entries.
* `CacheStore.Consistent.evict`: an eviction drops the head.
-/
namespace TorznabGateway

variable {κ ν : Type}

/-- A stored value, its key, and the time of its insertion. -/
structure Remembered (κ ν : Type) where
  key : κ
  value : ν
  insertedAt : Nat
  deriving DecidableEq, Repr

namespace Remembered

/-- The entry of a key, without its ticks. -/
def ofEntry (key : κ) (e : CacheEntry ν) : Remembered κ ν :=
  ⟨key, e.value, e.insertedAt⟩

/-- Whether a value is not older than the time to live. -/
def isFresh (ttl now : Nat) (r : Remembered κ ν) : Bool :=
  now - r.insertedAt ≤ ttl

theorem isFresh_ofEntry (ttl now : Nat) (key : κ) (e : CacheEntry ν) :
    (ofEntry key e).isFresh ttl now = !CacheStore.isExpired ttl now e := by
  unfold isFresh ofEntry CacheStore.isExpired
  rw [← decide_not]
  exact decide_eq_decide.2 Nat.not_lt.symm

end Remembered

/-! ## Entries in the order of an index -/

namespace TickIndex

variable {index : TickIndex κ} {tickOf : CacheEntry ν → Nat} {find : κ → Option (CacheEntry ν)}

/-- The entries of the keys of an index, in its order. -/
def view (index : TickIndex κ) (find : κ → Option (CacheEntry ν)) : List (Remembered κ ν) :=
  index.filterMap fun x => (find x.2).map (.ofEntry x.2)

theorem mem_view (h : Files index tickOf find) {r : Remembered κ ν} :
    r ∈ view index find ↔ ∃ e, find r.key = some e ∧ r = .ofEntry r.key e := by
  simp only [view, List.mem_filterMap, Option.map_eq_some_iff]
  constructor
  · rintro ⟨x, -, e, he, rfl⟩
    exact ⟨e, he, rfl⟩
  · rintro ⟨e, he, hr⟩
    exact ⟨(tickOf e, r.key), (h.mem_iff _ _).2 ⟨e, he, rfl⟩, e, he, hr.symm⟩

theorem map_key_view (h : Files index tickOf find) :
    (view index find).map (·.key) = index.map (·.2) := by
  have found : ∀ x ∈ index, ((find x.2).map (Remembered.ofEntry x.2)).map (·.key) = some x.2 := by
    intro x hx
    obtain ⟨e, he, -⟩ := (h.mem_iff x.1 x.2).1 hx
    rw [he]
    rfl
  rw [view, List.map_filterMap, List.filterMap_congr found, ← List.filterMap_eq_map]
  rfl

variable [DecidableEq κ] {key : κ} {e : CacheEntry ν}

theorem view_erase (h : Files index tickOf find) (he : find key = some e) :
    view (index.erase (tickOf e)) (Function.update find key none)
      = (view index find).filter (·.key ≠ key) := by
  have filed : (tickOf e, key) ∈ index := (h.mem_iff _ _).2 ⟨e, he, rfl⟩
  rw [view, view, erase, List.filterMap_filter, List.filter_filterMap]
  refine List.filterMap_congr fun x hx => ?_
  obtain ⟨f, hf, ht⟩ := (h.mem_iff x.1 x.2).1 hx
  by_cases hk : x.2 = key
  · have same : f = e := Option.some.inj (hf.symm.trans (hk ▸ he))
    rw [hf, ← ht, same]
    simp [Option.filter, Remembered.ofEntry, hk]
  · have other : x.1 ≠ tickOf e := fun same => hk (h.key_eq (same ▸ hx) filed)
    rw [Function.update_of_ne hk, hf]
    simp [Option.filter, Remembered.ofEntry, hk, other]

theorem view_insert (h : Files index tickOf find) (fresh : find key = none) {tick : Nat}
    (last : ∀ x ∈ index, x.1 < tick) :
    view (index.insert tick key) (Function.update find key (some e))
      = view index find ++ [.ofEntry key e] := by
  have others : ∀ x ∈ index, Function.update find key (some e) x.2 = find x.2 := by
    intro x hx
    obtain ⟨f, hf, -⟩ := (h.mem_iff x.1 x.2).1 hx
    refine Function.update_of_ne (fun hk => ?_) _ _
    rw [hk, fresh] at hf
    cases hf
  have same : view index (Function.update find key (some e)) = view index find :=
    List.filterMap_congr fun x hx => by rw [others x hx]
  rw [insert_of_forall_lt key last, ← same]
  simp [view]

end TickIndex

/-! ## The list of a store -/

namespace CacheStore

variable [DecidableEq κ] {s : CacheStore κ ν} {now : Nat} {key : κ} {e : CacheEntry ν}

/-- The entries in the order of their last use, the longest unused first. -/
def recency (s : CacheStore κ ν) : List (Remembered κ ν) :=
  s.byAccess.view s.find?

theorem Consistent.mem_recency (h : s.Consistent now) {r : Remembered κ ν} :
    r ∈ s.recency ↔ ∃ e, s.find? r.key = some e ∧ r = .ofEntry r.key e :=
  TickIndex.mem_view h.byAccess

theorem Consistent.nodup_recency (h : s.Consistent now) : (s.recency.map (·.key)).Nodup := by
  rw [recency, TickIndex.map_key_view h.byAccess]
  exact h.byAccess.nodup_keys

theorem Consistent.length_recency (h : s.Consistent now) :
    s.recency.length = s.entries.length := by
  have same : (s.recency.map (·.key)).Perm (s.entries.map (·.1)) := by
    refine (List.perm_ext_iff_of_nodup h.nodup_recency h.keys).2 fun k => ?_
    have stored : k ∈ s.entries.map (·.1) ↔ s.find? k ≠ none := by
      rw [ne_eq, find?_eq_none]
      simp
    rw [stored, Option.ne_none_iff_exists', List.mem_map]
    constructor
    · rintro ⟨r, hr, rfl⟩
      exact (h.mem_recency.1 hr).imp fun e he => he.1
    · rintro ⟨e, he⟩
      exact ⟨.ofEntry k e, h.mem_recency.2 ⟨e, he, rfl⟩, rfl⟩
  simpa using same.length_eq

/-- A look-up in the list is a look-up in the store. -/
theorem Consistent.find?_recency (h : s.Consistent now) (key : κ) :
    s.recency.find? (·.key = key) = (s.find? key).map (.ofEntry key) := by
  cases he : s.find? key with
  | none =>
    refine List.find?_eq_none.2 fun r hr => ?_
    obtain ⟨e, hk, -⟩ := h.mem_recency.1 hr
    intro same
    rw [of_decide_eq_true same, he] at hk
    cases hk
  | some e =>
    have mem : Remembered.ofEntry key e ∈ s.recency := h.mem_recency.2 ⟨e, he, rfl⟩
    have found : (s.recency.find? (·.key = key)).isSome :=
      List.find?_isSome.2 ⟨_, mem, decide_eq_true rfl⟩
    obtain ⟨r, hr⟩ := Option.isSome_iff_exists.1 found
    obtain ⟨f, hf, hrf⟩ := h.mem_recency.1 (List.mem_of_find?_eq_some hr)
    have hk : r.key = key := by simpa using List.find?_some hr
    rw [hk] at hf hrf
    rw [hr, hrf, Option.map_some, Option.some.inj (hf.symm.trans he)]

/-! ## Operations on the list -/

theorem Consistent.recency_remove (h : s.Consistent now) (key : κ) :
    (s.remove key).recency = s.recency.filter (·.key ≠ key) := by
  cases he : s.find? key with
  | none =>
    have absent : s.recency.filter (·.key ≠ key) = s.recency := by
      refine List.filter_eq_self.2 fun r hr => decide_eq_true fun same => ?_
      obtain ⟨e, hk, -⟩ := h.mem_recency.1 hr
      rw [same, he] at hk
      cases hk
    rw [absent, CacheStore.remove, he]
  | some e =>
    have index : (s.remove key).byAccess = s.byAccess.erase e.lastAccess := by
      rw [CacheStore.remove, he]
    rw [recency, find?_remove, index]
    exact TickIndex.view_erase h.byAccess he

theorem Consistent.length_recency_remove (h : s.Consistent now) (he : s.find? key = some e) :
    (s.remove key).recency.length + 1 = s.recency.length := by
  have mem : key ∈ s.recency.map (·.key) :=
    List.mem_map.2 ⟨.ofEntry key e, h.mem_recency.2 ⟨e, he, rfl⟩, rfl⟩
  have keys : (s.remove key).recency.map (·.key) = (s.recency.map (·.key)).erase key := by
    rw [h.recency_remove, h.nodup_recency.erase_eq_filter, List.filter_map]
    refine congrArg _ (List.filter_congr fun r _ => ?_)
    simp [bne, Bool.beq_eq_decide_eq]
  have lengths := congrArg List.length keys
  rw [List.length_erase_of_mem mem, List.length_map, List.length_map] at lengths
  have pos : 0 < s.recency.length := by simpa using List.length_pos_of_mem mem
  omega

theorem Consistent.recency_insert (h : s.Consistent now) (key : κ) (value : ν) :
    (s.insert now key value).recency = s.recency.filter (·.key ≠ key) ++ [⟨key, value, now⟩] := by
  have old := h.remove key
  have fresh : (s.remove key).find? key = none := by rw [find?_remove, Function.update_self]
  have last : ∀ x ∈ (s.remove key).byAccess, x.1 < s.tick + 1 := fun x hx =>
    Nat.lt_succ_of_le (tick_remove s key ▸ old.access_le x hx)
  have idem := Function.update_idem (none : Option (CacheEntry ν))
    (some ⟨value, now, s.tick + 1, s.tick + 1⟩) s.find? (a := key)
  rw [← h.recency_remove, recency, find?_insert, ← idem, ← find?_remove]
  simp only [CacheStore.insert, tick_remove]
  exact TickIndex.view_insert old.byAccess fresh last

theorem Consistent.recency_touch (h : s.Consistent now) (he : s.find? key = some e) :
    (s.touch key).recency = s.recency.filter (·.key ≠ key) ++ [.ofEntry key e] := by
  have last : ∀ x ∈ s.byAccess.erase e.lastAccess, x.1 < s.tick + 1 := fun x hx =>
    Nat.lt_succ_of_le (h.access_le x (TickIndex.mem_erase.1 hx).1)
  have idem := Function.update_idem (none : Option (CacheEntry ν))
    (some { e with lastAccess := s.tick + 1 }) s.find? (a := key)
  rw [recency, find?_touch he, recency, ← TickIndex.view_erase h.byAccess he, ← idem]
  simp only [CacheStore.touch, he]
  exact TickIndex.view_insert (h.byAccess.erase he) (Function.update_self _ _ _) last

/-! ## Purging and eviction -/

/-- The entry at the head of the insertion index is the oldest. -/
theorem Consistent.oldest_le (h : s.Consistent now) (first : s.byInsert.first? = some key)
    (he : s.find? key = some e) : ∀ r ∈ s.recency, e.insertedAt ≤ r.insertedAt := by
  intro r hr
  obtain ⟨tick, rest, index⟩ := TickIndex.first?_eq_some.1 first
  obtain ⟨f, hf, hrf⟩ := h.mem_recency.1 hr
  obtain ⟨g, hg, ht⟩ := (h.byInsert.mem_iff tick key).1 (index ▸ List.mem_cons_self)
  have same : g = e := Option.some.inj (hg.symm.trans he)
  have filed : (f.insertedTick, r.key) ∈ (tick, key) :: rest :=
    index ▸ (h.byInsert.mem_iff _ _).2 ⟨f, hf, rfl⟩
  have ascending := h.byInsert.ascending
  rw [index, List.pairwise_cons] at ascending
  have le : e.insertedTick ≤ f.insertedTick := by
    rw [← same, ht]
    rcases List.mem_cons.1 filed with eq | mem
    · exact Nat.le_of_eq (congrArg (·.1) eq).symm
    · exact Nat.le_of_lt (ascending.1 _ mem)
  rw [hrf]
  exact h.aged key e r.key f he hf le

/-- If the oldest entry is fresh, all are. -/
theorem Consistent.isFresh_of_oldest (h : s.Consistent now) (first : s.byInsert.first? = some key)
    (he : s.find? key = some e) {ttl : Nat} (fresh : isExpired ttl now e = false) :
    ∀ r ∈ s.recency, r.isFresh ttl now = true := by
  intro r hr
  have le := h.oldest_le first he r hr
  simp only [isExpired, Remembered.isFresh, decide_eq_false_iff_not, decide_eq_true_eq] at fresh ⊢
  omega

theorem Consistent.recency_eq_nil (h : s.Consistent now) (empty : s.byInsert.first? = none) :
    s.recency = [] := by
  refine List.eq_nil_iff_forall_not_mem.2 fun r hr => ?_
  obtain ⟨e, he, -⟩ := h.mem_recency.1 hr
  have filed := (h.byInsert.mem_iff _ _).2 ⟨e, he, rfl⟩
  rw [TickIndex.first?_eq_none.1 empty] at filed
  cases filed

/-- A purge drops exactly the expired entries, keeps the order of the others, and counts the
dropped ones. It may stop at the first fresh entry because all after it were inserted later. -/
theorem Consistent.purge (h : s.Consistent now) (ttl : Nat) :
    (s.purge ttl now).1.Consistent now
      ∧ (s.purge ttl now).1.recency = s.recency.filter (·.isFresh ttl now)
      ∧ (s.purge ttl now).2 = s.recency.countP (!·.isFresh ttl now) := by
  fun_induction CacheStore.purge ttl now s with
  | case1 s empty => simp [h, h.recency_eq_nil empty]
  | case2 s key first absent =>
    obtain ⟨e, he⟩ := h.byInsert.find_first first
    rw [he] at absent
    cases absent
  | case3 s key first e he old s' purged hp ih =>
    obtain ⟨consistent, list, count⟩ := ih (h.remove key)
    rw [hp] at consistent list count
    have expired : ∀ r ∈ s.recency, r.key = key → r.isFresh ttl now = false := by
      intro r hr hk
      obtain ⟨f, hf, hrf⟩ := h.mem_recency.1 hr
      have same : f = e := Option.some.inj ((hk ▸ hf).symm.trans he)
      rw [hrf, Remembered.isFresh_ofEntry, same, old]
      rfl
    have mem : Remembered.ofEntry key e ∈ s.recency := h.mem_recency.2 ⟨e, he, rfl⟩
    have kept : (s.remove key).recency.filter (·.isFresh ttl now)
        = s.recency.filter (·.isFresh ttl now) := by
      rw [h.recency_remove, List.filter_filter]
      refine List.filter_congr fun r hr => ?_
      by_cases hk : r.key = key
      · simp [expired r hr hk]
      · simp [hk]
    have one_less := h.length_recency_remove he
    have before := s.recency.length_eq_countP_add_countP (·.isFresh ttl now)
    have after := (s.remove key).recency.length_eq_countP_add_countP (·.isFresh ttl now)
    rw [List.countP_eq_length_filter, kept, ← List.countP_eq_length_filter] at after
    refine ⟨consistent, list.trans kept, ?_⟩
    simp only [Bool.not_eq_true, Bool.decide_eq_false] at before after
    dsimp only at count ⊢
    omega
  | case4 s key first e he fresh =>
    have all := h.isFresh_of_oldest first he (Bool.eq_false_iff.2 fresh)
    refine ⟨h, (List.filter_eq_self.2 all).symm, (List.countP_eq_zero.2 fun r hr => ?_).symm⟩
    simp [all r hr]

/-- An eviction drops the head of the list. -/
theorem Consistent.evict (h : s.Consistent now) :
    s.evict.1.Consistent now ∧ s.evict.1.recency = s.recency.tail
      ∧ s.evict.2 = !s.recency.isEmpty := by
  cases first : s.byAccess.first? with
  | none =>
    have empty : s.recency = [] := by rw [recency, TickIndex.first?_eq_none.1 first]; rfl
    simp [CacheStore.evict, first, h, empty]
  | some key =>
    obtain ⟨e, he⟩ := h.byAccess.find_first first
    obtain ⟨tick, rest, index⟩ := TickIndex.first?_eq_some.1 first
    have list : s.recency = .ofEntry key e :: TickIndex.view rest s.find? := by
      rw [recency, index, TickIndex.view, List.filterMap_cons, he]
      rfl
    have others : ∀ r ∈ TickIndex.view rest s.find?, r.key ≠ key := by
      have nodup := h.nodup_recency
      rw [list, List.map_cons, List.nodup_cons] at nodup
      exact fun r hr same => nodup.1 (List.mem_map.2 ⟨r, hr, same⟩)
    have rest_kept := List.filter_eq_self.2 fun r hr => decide_eq_true (others r hr)
    refine ⟨?_, ?_, ?_⟩
    · simpa [CacheStore.evict, first] using h.remove key
    · have head_gone : ¬ (Remembered.ofEntry key e).key ≠ key := not_not_intro rfl
      simp only [CacheStore.evict, first]
      rw [h.recency_remove, list, List.filter_cons_of_neg (by simpa using head_gone),
        List.tail_cons, rest_kept]
    · simp [CacheStore.evict, first, he, list]

end CacheStore

end TorznabGateway
