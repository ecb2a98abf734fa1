import TorznabGateway.Cache.Basic

/-!
# A cache does not look at its values

Which entries a cache keeps, and in which order it drops them, depends on keys and times only. So
changing every value by a function commutes with all that is done to a cache.

## Main definitions

* `TtlCache.mapValues`: the cache with every value changed.

## Main statements

* `TtlCache.get_mapValues`, `TtlCache.add_mapValues`: looking up and storing commute with it.
-/
namespace TorznabGateway

variable {κ ν μ : Type} {f : ν → μ}

def CacheEntry.mapValue (f : ν → μ) (e : CacheEntry ν) : CacheEntry μ :=
  { e with value := f e.value }

namespace CacheStore

variable {s : CacheStore κ ν} {key : κ}

/-- Change the value of every entry. -/
def mapValues (f : ν → μ) (s : CacheStore κ ν) : CacheStore κ μ :=
  { s with entries := s.entries.map fun x => (x.1, x.2.mapValue f) }

@[simp] theorem byAccess_mapValues : (s.mapValues f).byAccess = s.byAccess := rfl

@[simp] theorem byInsert_mapValues : (s.mapValues f).byInsert = s.byInsert := rfl

variable [DecidableEq κ]

@[simp] theorem find?_mapValues : (s.mapValues f).find? key = (s.find? key).map (·.mapValue f) := by
  simp only [find?, mapValues, List.find?_map, Option.map_map]
  rfl

@[simp] theorem remove_mapValues :
    (s.mapValues f).remove key = (s.remove key).mapValues f := by
  rw [remove, remove, find?_mapValues]
  cases s.find? key with
  | none => rfl
  | some e =>
    simp only [Option.map_some, mapValues, List.filter_map]
    rfl

@[simp] theorem insert_mapValues {now : Nat} {value : ν} :
    (s.mapValues f).insert now key (f value) = (s.insert now key value).mapValues f := by
  simp only [insert, remove_mapValues]
  simp [mapValues, CacheEntry.mapValue]

@[simp] theorem touch_mapValues : (s.mapValues f).touch key = (s.touch key).mapValues f := by
  rw [touch, touch, find?_mapValues]
  cases s.find? key with
  | none => rfl
  | some e =>
    simp only [Option.map_some, mapValues, List.map_map, CacheStore.mk.injEq, and_true]
    refine ⟨List.map_congr_left fun x _ => ?_, rfl⟩
    simp only [Function.comp_apply]
    split <;> rfl

/-- The oldest insertion decides: an expired one is dropped, and the next is looked at. -/
theorem purge_of_first {ttl now : Nat} {e : CacheEntry ν} (first : s.byInsert.first? = some key)
    (found : s.find? key = some e) :
    purge ttl now s =
      if isExpired ttl now e then
        ((purge ttl now (s.remove key)).1, (purge ttl now (s.remove key)).2 + 1)
      else (s, 0) := by
  rw [purge, first]
  dsimp only
  split
  · next absent => rw [found] at absent; cases absent
  · next e' found' => rw [Option.some.inj (found.symm.trans found')]

@[simp] theorem purge_mapValues {ttl now : Nat} (s : CacheStore κ ν) :
    purge ttl now (s.mapValues f) = ((purge ttl now s).1.mapValues f, (purge ttl now s).2) := by
  have found {s : CacheStore κ ν} {key : κ} {e : CacheEntry ν} (h : s.find? key = some e) :
      (s.mapValues f).find? key = some (e.mapValue f) := by rw [find?_mapValues, h, Option.map_some]
  fun_induction purge ttl now s with
  | case1 s empty => rw [purge, byInsert_mapValues, empty]
  | case2 s key first absent =>
    rw [purge, byInsert_mapValues, first]
    dsimp only
    split
    · rfl
    · next e found => simp [absent] at found
  | case3 s key first e he expired rest purged purge_rest ih =>
    rw [purge_of_first (s := s.mapValues f) first (found he),
      if_pos (by exact expired), remove_mapValues, ih, purge_rest]
  | case4 s key first e he fresh =>
    rw [purge_of_first (s := s.mapValues f) first (found he), if_neg (by exact fresh)]

@[simp] theorem evict_mapValues : (s.mapValues f).evict = (s.evict.1.mapValues f, s.evict.2) := by
  rw [evict, evict, byAccess_mapValues]
  cases s.byAccess.first? with
  | none => rfl
  | some key => simp

end CacheStore

namespace TtlCache

variable {c : TtlCache κ ν} {now : Nat} {key : κ}

/-- Change every stored value. -/
def mapValues (f : ν → μ) (c : TtlCache κ ν) : TtlCache κ μ :=
  { c with store := c.store.mapValues f }

@[simp] theorem size_mapValues : (c.mapValues f).size = c.size :=
  List.length_map _

variable [DecidableEq κ]

theorem evictOne_mapValues : (c.mapValues f).evictOne = c.evictOne.mapValues f := by
  simp [evictOne, mapValues]

theorem makeRoom_mapValues : (c.mapValues f).makeRoom now = (c.makeRoom now).mapValues f := by
  have purged : ((c.mapValues f).purgeExpired now).1 = (c.purgeExpired now).1.mapValues f := by
    simp [purgeExpired, mapValues]
  rw [makeRoom, makeRoom]
  dsimp only
  rw [purged, size_mapValues, evictOne_mapValues, ← apply_ite (mapValues f)]
  rfl

/-- Storing a value, then changing all values, is storing the changed value among the changed. -/
theorem add_mapValues {value : ν} :
    (c.mapValues f).add now key (f value) = (c.add now key value).mapValues f := by
  have room (needed : Bool) : (if needed then (c.mapValues f).makeRoom now else c.mapValues f)
      = (if needed then c.makeRoom now else c).mapValues f := by
    rw [makeRoom_mapValues, apply_ite (mapValues f)]
  have new : ((c.mapValues f).store.find? key).isNone = (c.store.find? key).isNone := by
    simp [mapValues]
  rw [add, add, new, size_mapValues, room]
  dsimp only [mapValues]
  rw [CacheStore.insert_mapValues]
  rfl

/-- What is found is the changed value, and the look-up leaves the same entries. -/
theorem get_mapValues :
    (c.mapValues f).get now key = ((c.get now key).1.map f, (c.get now key).2.mapValues f) := by
  rw [get, get, mapValues, CacheStore.find?_mapValues]
  cases c.store.find? key with
  | none => rfl
  | some e =>
    dsimp only [Option.map_some]
    by_cases expired : CacheStore.isExpired c.ttl now e
    · rw [if_pos (by exact expired), if_pos expired]
      simp [mapValues]
    · rw [if_neg (by exact expired), if_neg expired]
      simp [mapValues, CacheEntry.mapValue]

end TtlCache

end TorznabGateway
