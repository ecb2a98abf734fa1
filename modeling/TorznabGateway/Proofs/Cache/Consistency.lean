import Mathlib.Data.List.Nodup
import Mathlib.Logic.Function.Basic
import TorznabGateway.Cache.Basic

/-!
# Consistency of a cache store

The two indexes of a store are redundant: each of them could be computed from the entries. Here it
is said what it means that they agree with the entries, and every operation of the store is shown
to keep them so. The entries are looked at through `find?` only, so that every operation is an
update of a function.

## Main definitions

* `TickIndex.Files`: an index lists exactly the stored keys, each under one tick of its entry.
* `CacheStore.Consistent`: both indexes do so, ticks are behind the counter, and insertion ticks
  rise with insertion times.

## Main statements

* `CacheStore.Consistent.remove`, `.insert`, `.touch`: the operations keep a store consistent.
-/
namespace TorznabGateway

variable {κ ν : Type}

/-! ## Indexes -/

namespace TickIndex

/-- Whether an index lists the keys of `find` once each, in the order of the ticks `tickOf` that
their entries have. -/
structure Files (index : TickIndex κ) (tickOf : CacheEntry ν → Nat)
    (find : κ → Option (CacheEntry ν)) : Prop where
  ascending : index.Pairwise (·.1 < ·.1)
  mem_iff : ∀ t k, (t, k) ∈ index ↔ ∃ e, find k = some e ∧ tickOf e = t

variable {index : TickIndex κ} {tickOf : CacheEntry ν → Nat} {find : κ → Option (CacheEntry ν)}

theorem mem_erase {tick : Nat} {x : Nat × κ} :
    x ∈ index.erase tick ↔ x ∈ index ∧ x.1 ≠ tick := by
  simp [erase]

theorem first?_eq_none : index.first? = none ↔ index = [] := by
  cases index <;> simp [first?]

theorem first?_eq_some {key : κ} :
    index.first? = some key ↔ ∃ tick rest, index = (tick, key) :: rest := by
  cases index with
  | nil => simp [first?]
  | cons x rest =>
    obtain ⟨t, k⟩ := x
    simp [first?]

/-- A tick above all others is filed at the end. -/
theorem insert_of_forall_lt {tick : Nat} (key : κ) (h : ∀ x ∈ index, x.1 < tick) :
    index.insert tick key = index ++ [(tick, key)] := by
  induction index with
  | nil => rfl
  | cons x rest ih =>
    obtain ⟨t, k⟩ := x
    have below : t < tick := h (t, k) List.mem_cons_self
    rw [insert, if_neg (by omega), if_neg (by omega),
      ih fun y hy => h y (List.mem_cons_of_mem _ hy), List.cons_append]

theorem Files.empty (tickOf : CacheEntry ν → Nat) :
    Files ([] : TickIndex κ) tickOf fun _ => none :=
  ⟨.nil, by simp⟩

/-- Two keys are never filed under the same tick. -/
theorem Files.key_eq (h : Files index tickOf find) {t : Nat} {k l : κ} (hk : (t, k) ∈ index)
    (hl : (t, l) ∈ index) : k = l := by
  have ticks : (index.map (·.1)).Nodup :=
    List.pairwise_map.2 (h.ascending.imp fun lt => Nat.ne_of_lt lt)
  exact congrArg (·.2) (List.inj_on_of_nodup_map ticks hk hl rfl)

/-- A key is filed once. -/
theorem Files.nodup_keys (h : Files index tickOf find) : (index.map (·.2)).Nodup := by
  refine List.pairwise_map.2 (h.ascending.imp_of_mem ?_)
  intro x y hx hy lt same
  obtain ⟨e, he, hx⟩ := (h.mem_iff x.1 x.2).1 hx
  obtain ⟨f, hf, hy⟩ := (h.mem_iff y.1 y.2).1 hy
  have : e = f := Option.some.inj (he.symm.trans (same ▸ hf))
  subst this
  omega

/-- The key with the lowest tick is stored. -/
theorem Files.find_first (h : Files index tickOf find) {key : κ} (first : index.first? = some key) :
    ∃ e, find key = some e := by
  obtain ⟨tick, rest, rfl⟩ := first?_eq_some.1 first
  exact ((h.mem_iff tick key).1 List.mem_cons_self).imp fun e he => he.1

variable [DecidableEq κ] {key : κ} {e : CacheEntry ν}

/-- Taking an entry out of its index. -/
theorem Files.erase (h : Files index tickOf find) (he : find key = some e) :
    Files (index.erase (tickOf e)) tickOf (Function.update find key none) := by
  have filed : (tickOf e, key) ∈ index := (h.mem_iff _ _).2 ⟨e, he, rfl⟩
  refine ⟨h.ascending.filter _, fun t k => ?_⟩
  rw [mem_erase, h.mem_iff]
  by_cases hk : k = key
  · subst hk
    simp only [he, Function.update_self]
    grind
  · have other : ∀ f, find k = some f → tickOf f ≠ tickOf e := fun f hf same =>
      hk (h.key_eq (same ▸ (h.mem_iff _ _).2 ⟨f, hf, rfl⟩) filed)
    rw [Function.update_of_ne hk]
    grind

/-- Filing a new entry under a tick above all others. -/
theorem Files.insert (h : Files index tickOf find) (fresh : find key = none)
    (last : ∀ x ∈ index, x.1 < tickOf e) :
    Files (index.insert (tickOf e) key) tickOf (Function.update find key (some e)) := by
  rw [insert_of_forall_lt key last]
  refine ⟨?_, fun t k => ?_⟩
  · exact List.pairwise_append.2 ⟨h.ascending, List.pairwise_singleton _ _, by simpa using last⟩
  · rw [List.mem_append, List.mem_singleton, h.mem_iff]
    by_cases hk : k = key
    · subst hk
      simp [fresh, eq_comm]
    · simp [hk]

/-- An entry that keeps its tick may change otherwise. -/
theorem Files.replace (h : Files index tickOf find) {f : CacheEntry ν} (he : find key = some e)
    (same : tickOf f = tickOf e) : Files index tickOf (Function.update find key (some f)) := by
  refine ⟨h.ascending, fun t k => ?_⟩
  rw [h.mem_iff]
  by_cases hk : k = key
  · subst hk
    simp [he, same]
  · rw [Function.update_of_ne hk]

end TickIndex

/-! ## Operations on the entries -/

namespace CacheStore

variable [DecidableEq κ] {s : CacheStore κ ν} {now : Nat} {key : κ} {e : CacheEntry ν}

theorem find?_eq_none : s.find? key = none ↔ ∀ x ∈ s.entries, x.1 ≠ key := by
  simp [find?, List.find?_eq_none]

theorem find?_remove (s : CacheStore κ ν) (key : κ) :
    (s.remove key).find? = Function.update s.find? key none := by
  funext k
  unfold remove
  split
  · next absent =>
    by_cases hk : k = key
    · rw [hk, Function.update_self, absent]
    · rw [Function.update_of_ne hk]
  · by_cases hk : k = key
    · simp [find?, hk, List.find?_eq_none]
    · have same : (s.entries.filter (·.1 ≠ key)).find? (fun x => x.1 = k)
          = s.entries.find? fun x => x.1 = k := by
        rw [List.find?_filter]
        congr 1
        grind
      rw [Function.update_of_ne hk]
      simp only [find?, same]

@[simp] theorem tick_remove (s : CacheStore κ ν) (key : κ) : (s.remove key).tick = s.tick := by
  unfold remove
  split <;> rfl

theorem find?_insert (s : CacheStore κ ν) (now : Nat) (key : κ) (value : ν) :
    (s.insert now key value).find?
      = Function.update s.find? key (some ⟨value, now, s.tick + 1, s.tick + 1⟩) := by
  funext k
  have old : (s.remove key).find? k = Function.update s.find? key none k :=
    congrFun (find?_remove s key) k
  simp only [insert, find?, List.find?_append, tick_remove] at old ⊢
  by_cases hk : k = key
  · subst hk
    have absent : (s.remove k).entries.find? (fun x => x.1 = k) = none := by simpa using old
    simp [absent]
  · rw [Function.update_of_ne hk] at old ⊢
    simpa [Ne.symm hk] using old

theorem find?_touch (he : s.find? key = some e) :
    (s.touch key).find?
      = Function.update s.find? key (some { e with lastAccess := s.tick + 1 }) := by
  funext k
  have keys : (fun x : κ × CacheEntry ν => decide (x.1 = k)) ∘ (fun x => if x.1 = key
      then (key, { e with lastAccess := s.tick + 1 }) else x) = fun x => decide (x.1 = k) := by
    funext x
    by_cases hx : x.1 = key <;> simp [hx]
  simp only [touch, he]
  simp only [find?, List.find?_map, keys, Option.map_map]
  by_cases hk : k = key
  · subst hk
    rw [Function.update_self]
    obtain ⟨x, hx, -⟩ := Option.map_eq_some_iff.1 he
    have same : x.1 = k := by simpa using List.find?_some hx
    simp [hx, same]
  · rw [Function.update_of_ne hk]
    refine Option.map_congr fun x hx => ?_
    have same : x.1 = k := by simpa using List.find?_some hx
    simp [same, hk]

/-! ## Consistent stores -/

/-- Whether the parts of a store agree at time `now`. -/
structure Consistent (s : CacheStore κ ν) (now : Nat) : Prop where
  keys : (s.entries.map (·.1)).Nodup
  byAccess : s.byAccess.Files (·.lastAccess) s.find?
  byInsert : s.byInsert.Files (·.insertedTick) s.find?
  ticks : ∀ k e, s.find? k = some e → e.lastAccess ≤ s.tick ∧ e.insertedTick ≤ s.tick
  /-- Insertion ticks rise with insertion times. -/
  aged : ∀ k e l f, s.find? k = some e → s.find? l = some f → e.insertedTick ≤ f.insertedTick →
    e.insertedAt ≤ f.insertedAt
  past : ∀ k e, s.find? k = some e → e.insertedAt ≤ now

theorem find?_empty (tick : Nat) : ({ tick } : CacheStore κ ν).find? = fun _ => none := rfl

theorem Consistent.empty (tick now : Nat) : ({ tick } : CacheStore κ ν).Consistent now where
  keys := .nil
  byAccess := .empty _
  byInsert := .empty _
  ticks := by simp [find?_empty]
  aged := by simp [find?_empty]
  past := by simp [find?_empty]

/-- A store stays consistent while time passes. -/
theorem Consistent.later (h : s.Consistent now) {later : Nat} (le : now ≤ later) :
    s.Consistent later :=
  { h with past := fun k e he => Nat.le_trans (h.past k e he) le }

theorem Consistent.access_le (h : s.Consistent now) : ∀ x ∈ s.byAccess, x.1 ≤ s.tick := by
  intro x hx
  obtain ⟨e, he, ht⟩ := (h.byAccess.mem_iff x.1 x.2).1 hx
  exact ht ▸ (h.ticks x.2 e he).1

theorem Consistent.insert_le (h : s.Consistent now) : ∀ x ∈ s.byInsert, x.1 ≤ s.tick := by
  intro x hx
  obtain ⟨e, he, ht⟩ := (h.byInsert.mem_iff x.1 x.2).1 hx
  exact ht ▸ (h.ticks x.2 e he).2

theorem Consistent.remove (h : s.Consistent now) (key : κ) : (s.remove key).Consistent now := by
  have find := find?_remove s key
  have kept : ∀ k e, (s.remove key).find? k = some e → s.find? k = some e := by
    intro k e he
    by_cases hk : k = key
    · rw [find, hk, Function.update_self] at he
      cases he
    · rwa [find, Function.update_of_ne hk] at he
  cases he : s.find? key with
  | none =>
    rw [CacheStore.remove, he]
    exact h
  | some e =>
    have parts : s.remove key = { s with
        entries := s.entries.filter (·.1 ≠ key)
        byAccess := s.byAccess.erase e.lastAccess
        byInsert := s.byInsert.erase e.insertedTick } := by rw [CacheStore.remove, he]
    constructor
    case keys => rw [parts]; exact h.keys.sublist (List.filter_sublist.map _)
    case byAccess => rw [find, parts]; exact h.byAccess.erase he
    case byInsert => rw [find, parts]; exact h.byInsert.erase he
    case ticks => exact fun k f hf => tick_remove s key ▸ h.ticks k f (kept k f hf)
    case aged => exact fun k e l f he hf => h.aged k e l f (kept k e he) (kept l f hf)
    case past => exact fun k f hf => h.past k f (kept k f hf)

theorem Consistent.insert (h : s.Consistent now) (key : κ) (value : ν) :
    (s.insert now key value).Consistent now := by
  have find := find?_insert s now key value
  have old := h.remove key
  have fresh : (s.remove key).find? key = none := by rw [find?_remove, Function.update_self]
  have twice (e : CacheEntry ν) : Function.update (s.remove key).find? key (some e)
      = Function.update s.find? key (some e) := by rw [find?_remove, Function.update_idem]
  have accessed := old.access_le
  have inserted := old.insert_le
  rw [tick_remove] at accessed inserted
  constructor
  case keys =>
    rw [CacheStore.insert, List.map_append]
    refine List.nodup_append.2 ⟨old.keys, List.nodup_singleton _, ?_⟩
    intro k hk l hl same
    obtain ⟨x, hx, rfl⟩ := List.mem_map.1 hk
    exact find?_eq_none.1 fresh x hx (same.trans (List.mem_singleton.1 hl))
  case byAccess =>
    rw [find, ← twice]
    simp only [CacheStore.insert, tick_remove]
    exact old.byAccess.insert (e := ⟨value, now, s.tick + 1, s.tick + 1⟩) fresh fun x hx =>
      Nat.lt_succ_of_le (accessed x hx)
  case byInsert =>
    rw [find, ← twice]
    simp only [CacheStore.insert, tick_remove]
    exact old.byInsert.insert (e := ⟨value, now, s.tick + 1, s.tick + 1⟩) fresh fun x hx =>
      Nat.lt_succ_of_le (inserted x hx)
  case ticks =>
    intro k e he
    have tick : (s.insert now key value).tick = s.tick + 1 := by
      rw [CacheStore.insert, tick_remove]
    rw [find, Function.update_apply] at he
    split at he
    · cases he; simp [tick]
    · have := h.ticks k e he; omega
  case aged =>
    intro k e l f he hf le
    rw [find, Function.update_apply] at he hf
    split at he <;> split at hf
    · cases he; cases hf; exact Nat.le_refl now
    · cases he
      have := (h.ticks l f hf).2
      simp only at le
      omega
    · cases hf; exact h.past k e he
    · exact h.aged k e l f he hf le
  case past =>
    intro k e he
    rw [find, Function.update_apply] at he
    split at he
    · cases he; exact Nat.le_refl now
    · exact h.past k e he

theorem Consistent.touch (h : s.Consistent now) (key : κ) : (s.touch key).Consistent now := by
  cases he : s.find? key with
  | none =>
    have parts : s.touch key = { s with tick := s.tick + 1 } := by rw [CacheStore.touch, he]
    have ticks : ∀ k e, s.find? k = some e →
        e.lastAccess ≤ s.tick + 1 ∧ e.insertedTick ≤ s.tick + 1 :=
      fun k e he => (h.ticks k e he).imp Nat.le_succ_of_le Nat.le_succ_of_le
    rw [parts]
    exact { h with ticks }
  | some e =>
    have find := find?_touch he
    have idem := Function.update_idem (none : Option (CacheEntry ν))
      (some { e with lastAccess := s.tick + 1 }) s.find? (a := key)
    constructor
    case keys =>
      have same : (s.touch key).entries.map (·.1) = s.entries.map (·.1) := by
        simp only [CacheStore.touch, he, List.map_map]
        refine List.map_congr_left fun x _ => ?_
        by_cases hx : x.1 = key <;> simp [hx]
      rw [same]
      exact h.keys
    case byAccess =>
      rw [find, ← idem]
      simp only [CacheStore.touch, he]
      refine (h.byAccess.erase he).insert (e := { e with lastAccess := s.tick + 1 })
        (Function.update_self _ _ _) fun x hx => ?_
      exact Nat.lt_succ_of_le (h.access_le x (TickIndex.mem_erase.1 hx).1)
    case byInsert =>
      rw [find]
      simp only [CacheStore.touch, he]
      exact h.byInsert.replace he rfl
    case ticks =>
      have tick : (s.touch key).tick = s.tick + 1 := by simp only [CacheStore.touch, he]
      intro k f hf
      rw [find, Function.update_apply] at hf
      split at hf
      · cases hf
        have := h.ticks key e he
        simp only [tick]
        omega
      · have := h.ticks k f hf; omega
    case aged =>
      have before : ∀ k f, (s.touch key).find? k = some f → ∃ g, s.find? k = some g
          ∧ f.insertedTick = g.insertedTick ∧ f.insertedAt = g.insertedAt := by
        intro k f hf
        rw [find, Function.update_apply] at hf
        split at hf
        · next hk => cases hf; exact ⟨e, hk ▸ he, rfl, rfl⟩
        · exact ⟨f, hf, rfl, rfl⟩
      intro k f l g hf hg le
      obtain ⟨f', hf, tf, af⟩ := before k f hf
      obtain ⟨g', hg, tg, ag⟩ := before l g hg
      rw [af, ag]
      exact h.aged k f' l g' hf hg (by omega)
    case past =>
      intro k f hf
      rw [find, Function.update_apply] at hf
      split at hf
      · cases hf; exact h.past key e he
      · exact h.past k f hf

end CacheStore

end TorznabGateway
