import TorznabGateway.Proofs.Cache.Memory
import TorznabGateway.Search.Sample
import TorznabGateway.Search.Seen

/-!
# Histories of sightings

What a store of sightings answers depends on the history of the item's key only. An item seen
before keeps its identifier as long as it does not stay away for longer than the time to live, and
not for so long that too many others come between; it is compared with its latest sighting. An
item that was never seen, or stayed away for too long, is new.

## Main definitions

* `SeenStore.after`: the store after a history of sightings.
* `SeenStore.AnswersNew`: a new item, under an identifier that was not answered before.
* `SeenStore.KeptAlive`: a history in which no sighting of a key is too far from the one before it.

## Main statements

* `SeenStore.remembers_after`: what the store knows of a key that was not seen for a while.
* `SeenStore.classify_of_history`: how an item is classified after any history.
-/
namespace TorznabGateway.SeenStore

variable {ids : Nat → Uuid} {s : SeenStore} {now : Nat} {i : Item} {key : String}
  {last : Option (Nat × Sighting)} {used : Finset String}

/-! ## One sighting -/

theorem classify_of_get_eq_none (absent : (s.sightings.get now i.key).1 = none) :
    s.classify ids now i = (ids (s.issued + 1), .new,
      ⟨(s.sightings.get now i.key).2.add now i.key ⟨ids (s.issued + 1), i.fingerprint⟩,
        s.issued + 1⟩) := by
  simp only [classify, absent]

theorem classify_of_get_eq_some {seen : Sighting}
    (found : (s.sightings.get now i.key).1 = some seen) :
    s.classify ids now i =
      (seen.uuid, if seen.fingerprint = i.fingerprint then .unchanged else .updated,
        ⟨(s.sightings.get now i.key).2.add now i.key ⟨seen.uuid, i.fingerprint⟩, s.issued⟩) := by
  simp only [classify, found]

/-- Every sighting is recorded under the identifier that was answered. -/
theorem sightings_classify (ids : Nat → Uuid) (s : SeenStore) (now : Nat) (i : Item) :
    (s.classify ids now i).2.2.sightings = (s.sightings.get now i.key).2.add now i.key
      ⟨(s.classify ids now i).1, i.fingerprint⟩ := by
  cases found : (s.sightings.get now i.key).1 with
  | none => rw [classify_of_get_eq_none found]
  | some seen => rw [classify_of_get_eq_some found]

/-- A sighting of any item is a use of its key, and the last of it. -/
theorem remembers_classify (ids : Nat → Uuid) (h : s.sightings.Remembers now key last used)
    (i : Item) :
    (s.classify ids now i).2.2.sightings.Remembers now key
      (if i.key = key then some (now, ⟨(s.classify ids now i).1, i.fingerprint⟩) else last)
      (afterUse key i.key used) := by
  have once : afterUse key i.key
      (if (s.sightings.get now i.key).1.isSome then afterUse key i.key used else used)
      = afterUse key i.key used := by
    split
    · exact afterUse_afterUse key i.key used
    · rfl
  have stored := (h.get i.key).add i.key ⟨(s.classify ids now i).1, i.fingerprint⟩
  rwa [once, ← sightings_classify] at stored

/-- How an item is classified whose last sighting is remembered. -/
theorem classify_of_remembers (h : s.sightings.Remembers now i.key last used) {t : Nat}
    {seen : Sighting} (hl : last = some (t, seen)) (young : now ≤ t + s.sightings.ttl)
    (few : used.card < s.sightings.capacity) :
    (s.classify ids now i).1 = seen.uuid ∧ (s.classify ids now i).2.1
      = if seen.fingerprint = i.fingerprint then .unchanged else .updated := by
  rw [classify_of_get_eq_some (h.get_eq_some hl young few)]
  exact ⟨rfl, rfl⟩

/-- An item without a sighting that is young enough is new. -/
theorem get_eq_none_of_remembers (h : s.sightings.Remembers now key last used)
    (old : ∀ t seen, last = some (t, seen) → t + s.sightings.ttl < now) :
    (s.sightings.get now key).1 = none := by
  rw [Option.eq_none_iff_forall_ne_some]
  intro seen found
  obtain ⟨t, hl, young⟩ := h.last_of_get found
  have := old t seen hl
  omega

/-! ## Histories -/

/-- The store after items were classified at the given times. -/
def after (ids : Nat → Uuid) (s : SeenStore) (history : List (Nat × Item)) : SeenStore :=
  history.foldl (fun s x => (s.classify ids x.1 x.2).2.2) s

/-- The keys of the items of a history. -/
def keys (history : List (Nat × Item)) : Finset String :=
  (history.map (·.2.key)).toFinset

@[simp] theorem after_nil (ids : Nat → Uuid) (s : SeenStore) : after ids s [] = s := rfl

@[simp] theorem after_cons (ids : Nat → Uuid) (s : SeenStore) (x : Nat × Item)
    (rest : List (Nat × Item)) :
    after ids s (x :: rest) = after ids (s.classify ids x.1 x.2).2.2 rest := rfl

theorem after_append (ids : Nat → Uuid) (s : SeenStore) (xs ys : List (Nat × Item)) :
    after ids s (xs ++ ys) = after ids (after ids s xs) ys :=
  List.foldl_append

theorem bounds_after (ids : Nat → Uuid) (s : SeenStore) (history : List (Nat × Item)) :
    (after ids s history).sightings.capacity = s.sightings.capacity
      ∧ (after ids s history).sightings.ttl = s.sightings.ttl := by
  induction history generalizing s with
  | nil => exact ⟨rfl, rfl⟩
  | cons x rest ih =>
    obtain ⟨capacity, ttl⟩ := ih (s.classify ids x.1 x.2).2.2
    rw [sightings_classify] at capacity ttl
    simp only [TtlCache.capacity_add, TtlCache.capacity_get] at capacity
    simp only [TtlCache.ttl_add, TtlCache.ttl_get] at ttl
    exact ⟨capacity, ttl⟩

/-- While a key is not seen, its last sighting stays the same, and the keys of the others are those
used since. -/
theorem remembers_after (ids : Nat → Uuid) (h : s.sightings.Remembers now key last used)
    {history : List (Nat × Item)} (sorted : history.Pairwise (·.1 ≤ ·.1))
    (others : ∀ x ∈ history, x.2.key ≠ key) {next : Nat} (le : now ≤ next)
    (within : ∀ x ∈ history, now ≤ x.1 ∧ x.1 ≤ next) :
    (after ids s history).sightings.Remembers next key last (used ∪ keys history) := by
  induction history generalizing s now used with
  | nil => simpa [keys] using h.later le
  | cons x rest ih =>
    obtain ⟨first, sorted⟩ := List.pairwise_cons.1 sorted
    obtain ⟨starts, ends⟩ := within x List.mem_cons_self
    have other : x.2.key ≠ key := others x List.mem_cons_self
    have step := remembers_classify ids (h.later starts) x.2
    rw [if_neg other, afterUse_of_ne other] at step
    have rest_known := ih step sorted (fun y hy => others y (List.mem_cons_of_mem x hy)) ends
      fun y hy => ⟨first y hy, (within y (List.mem_cons_of_mem x hy)).2⟩
    have all : insert x.2.key used ∪ keys rest = used ∪ keys (x :: rest) := by
      simp [keys, Finset.insert_union, Finset.union_insert]
    rwa [all] at rest_known

/-! ## Identifiers -/

/-- Whether an identifier was issued. -/
def Issued (ids : Nat → Uuid) (s : SeenStore) (u : Uuid) : Prop :=
  ∃ n, 0 < n ∧ n ≤ s.issued ∧ u = ids n

theorem issued_le_classify (ids : Nat → Uuid) (s : SeenStore) (now : Nat) (i : Item) :
    s.issued ≤ (s.classify ids now i).2.2.issued
      ∧ (s.classify ids now i).2.2.issued ≤ s.issued + 1 := by
  cases found : (s.sightings.get now i.key).1 with
  | none => rw [classify_of_get_eq_none found]; simp
  | some seen => rw [classify_of_get_eq_some found]; simp

theorem issued_le_after (ids : Nat → Uuid) (s : SeenStore) (history : List (Nat × Item)) :
    s.issued ≤ (after ids s history).issued
      ∧ (after ids s history).issued ≤ s.issued + history.length := by
  induction history generalizing s with
  | nil => simp
  | cons x rest ih =>
    have step := issued_le_classify ids s x.1 x.2
    have := ih (s.classify ids x.1 x.2).2.2
    simp only [after_cons, List.length_cons]
    omega

theorem Issued.mono {u : Uuid} (h : s.Issued ids u) {s' : SeenStore} (le : s.issued ≤ s'.issued) :
    s'.Issued ids u := by
  obtain ⟨n, pos, issued, rfl⟩ := h
  exact ⟨n, pos, issued.trans le, rfl⟩

/-- Whether a store remembers something of every key, under identifiers that were issued. -/
def Accounted (ids : Nat → Uuid) (s : SeenStore) (now : Nat) : Prop :=
  ∀ key, ∃ last used, s.sightings.Remembers now key last used
    ∧ ∀ t seen, last = some (t, seen) → s.Issued ids seen.uuid

theorem accounted_new (ids : Nat → Uuid) (capacity ttl now : Nat) :
    (new capacity ttl).Accounted ids now := by
  intro key
  exact ⟨none, ∅, .new capacity ttl now key, by simp⟩

theorem Accounted.later (h : s.Accounted ids now) {next : Nat} (le : now ≤ next) :
    s.Accounted ids next := by
  intro key
  obtain ⟨last, used, known, issued⟩ := h key
  exact ⟨last, used, known.later le, issued⟩

/-- Every identifier that is answered was issued. -/
theorem Accounted.issued_uuid (h : s.Accounted ids now) (i : Item) :
    (s.classify ids now i).2.2.Issued ids (s.classify ids now i).1 := by
  cases found : (s.sightings.get now i.key).1 with
  | none =>
    rw [classify_of_get_eq_none found]
    exact ⟨s.issued + 1, by omega, Nat.le_refl _, rfl⟩
  | some seen =>
    obtain ⟨last, used, known, issued⟩ := h i.key
    obtain ⟨t, hl, -⟩ := known.last_of_get found
    have before := issued_le_classify ids s now i
    have answered : (s.classify ids now i).1 = seen.uuid := by rw [classify_of_get_eq_some found]
    rw [answered]
    exact (issued t seen hl).mono before.1

theorem Accounted.classify (h : s.Accounted ids now) (i : Item) :
    (s.classify ids now i).2.2.Accounted ids now := by
  intro key
  obtain ⟨last, used, known, issued⟩ := h key
  refine ⟨_, _, remembers_classify ids known i, ?_⟩
  intro t seen hl
  by_cases same : i.key = key
  · rw [if_pos same] at hl
    cases hl
    exact h.issued_uuid i
  · rw [if_neg same] at hl
    exact (issued t seen hl).mono (issued_le_classify ids s now i).1

theorem Accounted.after (h : s.Accounted ids now) {history : List (Nat × Item)}
    (sorted : history.Pairwise (·.1 ≤ ·.1)) {next : Nat} (le : now ≤ next)
    (within : ∀ x ∈ history, now ≤ x.1 ∧ x.1 ≤ next) :
    (after ids s history).Accounted ids next := by
  induction history generalizing s now with
  | nil => exact h.later le
  | cons x rest ih =>
    obtain ⟨first, sorted⟩ := List.pairwise_cons.1 sorted
    obtain ⟨starts, ends⟩ := within x List.mem_cons_self
    exact ih ((h.later starts).classify x.2) sorted ends
      fun y hy => ⟨first y hy, (within y (List.mem_cons_of_mem x hy)).2⟩

/-! ## How an item is classified -/

section

variable {capacity ttl time : Nat} {before since : List (Nat × Item)} {prior item : Item}

/-- What the store knows of a key that was seen once and not since. -/
theorem remembers_of_last_sighting (ids : Nat → Uuid) (capacity ttl : Nat)
    (sorted : (before ++ (time, prior) :: since ++ [(now, item)]).Pairwise (·.1 ≤ ·.1))
    (others : ∀ x ∈ since, x.2.key ≠ prior.key) :
    (after ids (new capacity ttl) (before ++ (time, prior) :: since)).sightings.Remembers now
      prior.key (some (time, ⟨((after ids (new capacity ttl) before).classify ids time prior).1,
        prior.fingerprint⟩)) (keys since) := by
  have order := List.pairwise_append.1 sorted
  have inner := List.pairwise_append.1 order.1
  have tail := List.pairwise_cons.1 inner.2.1
  have start := (accounted_new ids capacity ttl 0).after inner.1 (Nat.zero_le time)
    fun x hx => ⟨Nat.zero_le _, inner.2.2 x hx _ List.mem_cons_self⟩
  obtain ⟨last, used, known, -⟩ := start prior.key
  have seen := remembers_classify ids known prior
  rw [if_pos rfl, afterUse_self] at seen
  have later := remembers_after ids seen tail.2 others
    (order.2.2 (time, prior) (by simp) (now, item) (by simp))
    fun x hx => ⟨tail.1 x hx, order.2.2 x (by simp [hx]) (now, item) (by simp)⟩
  rw [Finset.empty_union] at later
  rw [after_append, after_cons]
  exact later

/-- An item seen a short while ago keeps its identifier and is compared with that sighting. -/
theorem classify_of_recent (ids : Nat → Uuid)
    (sorted : (before ++ (time, prior) :: since ++ [(now, item)]).Pairwise (·.1 ≤ ·.1))
    (same : prior.key = item.key) (others : ∀ x ∈ since, x.2.key ≠ item.key)
    (young : now ≤ time + ttl) (few : (keys since).card < capacity) :
    let answer := (after ids (new capacity ttl) (before ++ (time, prior) :: since)).classify ids now
      item
    answer.1 = ((after ids (new capacity ttl) before).classify ids time prior).1
      ∧ answer.2.1 = if prior.fingerprint = item.fingerprint then .unchanged else .updated := by
  obtain ⟨hc, ht⟩ := bounds_after ids (new capacity ttl) (before ++ (time, prior) :: since)
  have known := remembers_of_last_sighting ids capacity ttl sorted (same ▸ others)
  rw [same] at known
  exact classify_of_remembers known rfl (by rw [ht]; exact young)
    (by rw [hc]; exact few.trans_le (Nat.le_max_left capacity 1))

/-- An answer that no earlier one of a history gave: a new item, and a new identifier. -/
def AnswersNew (ids : Nat → Uuid) (start : SeenStore) (history : List (Nat × Item)) (now : Nat)
    (item : Item) : Prop :=
  ((after ids start history).classify ids now item).2.1 = .new
    ∧ ∀ before x since, history = before ++ x :: since →
      ((after ids start before).classify ids x.1 x.2).1
        ≠ ((after ids start history).classify ids now item).1

/-- An item that is not found is answered as new, if the supply of identifiers does not repeat
itself. -/
theorem answersNew_of_get_eq_none {history : List (Nat × Item)}
    (sorted : (history ++ [(now, item)]).Pairwise (·.1 ≤ ·.1))
    (distinct : ∀ m n, 0 < m → m < n → n ≤ history.length + 1 → ids m ≠ ids n)
    (absent : ((after ids (new capacity ttl) history).sightings.get now item.key).1 = none) :
    AnswersNew ids (new capacity ttl) history now item := by
  rw [AnswersNew, classify_of_get_eq_none absent]
  refine ⟨rfl, ?_⟩
  rintro before x since rfl same
  have inner := List.pairwise_append.1 (List.pairwise_append.1 sorted).1
  have accounted := (accounted_new ids capacity ttl 0).after inner.1 (Nat.zero_le x.1)
    fun y hy => ⟨Nat.zero_le _, inner.2.2 y hy x List.mem_cons_self⟩
  obtain ⟨n, pos, issued, answered⟩ := accounted.issued_uuid x.2
  have more := issued_le_after ids
    ((after ids (new capacity ttl) before).classify ids x.1 x.2).2.2 since
  have few := issued_le_after ids (new capacity ttl) (before ++ x :: since)
  rw [← after_cons, ← after_append] at more
  have none_issued : (new capacity ttl).issued = 0 := rfl
  exact distinct n _ pos (by omega) (by omega) (answered.symm.trans same)

/-- An item that was never seen is new. -/
theorem get_eq_none_of_unseen (ids : Nat → Uuid) (capacity ttl : Nat)
    {history : List (Nat × Item)} (sorted : (history ++ [(now, item)]).Pairwise (·.1 ≤ ·.1))
    (unseen : ∀ x ∈ history, x.2.key ≠ item.key) :
    ((after ids (new capacity ttl) history).sightings.get now item.key).1 = none := by
  have order := List.pairwise_append.1 sorted
  have known := remembers_after ids (s := new capacity ttl) (.new capacity ttl 0 item.key)
    order.1 unseen (Nat.zero_le now)
    fun x hx => ⟨Nat.zero_le _, order.2.2 x hx _ (List.mem_singleton_self _)⟩
  exact get_eq_none_of_remembers known (by simp)

/-- An item that stayed away for too long is new. -/
theorem get_eq_none_of_stale (ids : Nat → Uuid) (capacity : Nat)
    (sorted : (before ++ (time, prior) :: since ++ [(now, item)]).Pairwise (·.1 ≤ ·.1))
    (same : prior.key = item.key) (others : ∀ x ∈ since, x.2.key ≠ item.key)
    (stale : time + ttl < now) :
    ((after ids (new capacity ttl) (before ++ (time, prior) :: since)).sightings.get now
      item.key).1 = none := by
  have known := remembers_of_last_sighting ids capacity ttl sorted (same ▸ others)
  rw [same] at known
  refine get_eq_none_of_remembers known ?_
  rintro t seen ⟨⟩
  rwa [(bounds_after ids (new capacity ttl) (before ++ (time, prior) :: since)).2]

/-! ## Keys that stay -/

/-- Whether every sighting of a key in a history follows the one before it in time, and before too
many others came between. -/
def KeptAlive (capacity ttl : Nat) (key : String) (history : List (Nat × Item)) : Prop :=
  ∀ before x since y rest, history = before ++ x :: since ++ y :: rest → x.2.key = key →
    y.2.key = key → (∀ z ∈ since, z.2.key ≠ key) →
    y.1 ≤ x.1 + ttl ∧ (keys since).card < capacity

theorem KeptAlive.of_append {xs : List (Nat × Item)} (ys : List (Nat × Item))
    (h : KeptAlive capacity ttl key (xs ++ ys)) : KeptAlive capacity ttl key xs := by
  rintro before x since y rest rfl
  exact h before x since y (rest ++ ys) (by simp)

/-- A key was not seen, or there is a last sighting of it. -/
theorem exists_last_sighting (key : String) (history : List (Nat × Item)) :
    (∀ x ∈ history, x.2.key ≠ key) ∨ ∃ before x since, history = before ++ x :: since
      ∧ x.2.key = key ∧ ∀ y ∈ since, y.2.key ≠ key := by
  induction history with
  | nil => exact .inl (by simp)
  | cons x rest ih =>
    rcases ih with unseen | ⟨before, y, since, rfl, same, others⟩
    · by_cases here : x.2.key = key
      · exact .inr ⟨[], x, rest, rfl, here, unseen⟩
      · exact .inl (by simpa [here] using unseen)
    · exact .inr ⟨x :: before, y, since, rfl, same, others⟩

/-- A key that is kept alive keeps its identifier, whatever its first sighting was. -/
theorem uuid_of_keptAlive
    (sorted : (before ++ (time, prior) :: since ++ [(now, item)]).Pairwise (·.1 ≤ ·.1))
    (same : prior.key = item.key)
    (alive : KeptAlive capacity ttl item.key ((time, prior) :: since ++ [(now, item)])) :
    ((after ids (new capacity ttl) (before ++ (time, prior) :: since)).classify ids now item).1
      = ((after ids (new capacity ttl) before).classify ids time prior).1 := by
  -- by induction on the number of sightings in between, going back from one of the key to the next
  induction hn : since.length using Nat.strong_induction_on generalizing since now item with
  | _ n ih =>
  rcases exists_last_sighting item.key since with others | ⟨early, x, late, rfl, here, others⟩
  · obtain ⟨young, few⟩ := alive [] (time, prior) since (now, item) [] (by simp) same rfl others
    exact (classify_of_recent ids sorted same others young few).1
  · obtain ⟨t, found⟩ := x
    obtain ⟨young, few⟩ := alive ((time, prior) :: early) (t, found) late (now, item) [] (by simp)
      here rfl others
    have regroup : before ++ (time, prior) :: (early ++ (t, found) :: late)
        = (before ++ (time, prior) :: early) ++ (t, found) :: late := by simp
    rw [regroup] at sorted ⊢
    have last := (classify_of_recent ids sorted here others young few).1
    have upto : (before ++ (time, prior) :: early ++ [(t, found)]).Pairwise (·.1 ≤ ·.1) :=
      sorted.sublist (by simp)
    have alive_upto :
        KeptAlive capacity ttl found.key ((time, prior) :: early ++ [(t, found)]) := by
      rw [here]
      exact KeptAlive.of_append (late ++ [(now, item)]) (by simpa using alive)
    have earlier := ih early.length (by simp [← hn]) upto (same.trans here.symm) alive_upto rfl
    exact last.trans earlier

/-! ## The law of histories -/

/-- How an item is classified after any history, in the order of time, from an empty store. Seen
not too long ago, it keeps its identifier and is compared with the last sighting. Seen never, or too
long ago, it is new under a new identifier. As long as it is kept alive, the identifier stays. -/
theorem classify_of_history (ids : Nat → Uuid) (capacity ttl : Nat) (history : List (Nat × Item))
    (now : Nat) (item : Item)
    (sorted : (history ++ [(now, item)]).Pairwise (·.1 ≤ ·.1))
    (distinct : ∀ m n, 0 < m → m < n → n ≤ history.length + 1 → ids m ≠ ids n) :
    let start := new capacity ttl
    let answer := (after ids start history).classify ids now item
    (∀ before time prior since, history = before ++ (time, prior) :: since →
      prior.key = item.key → (∀ x ∈ since, x.2.key ≠ item.key) →
      (now ≤ time + ttl → (keys since).card < capacity →
        answer.1 = ((after ids start before).classify ids time prior).1
          ∧ answer.2.1 = if prior.fingerprint = item.fingerprint then .unchanged else .updated)
      ∧ (time + ttl < now → AnswersNew ids start history now item))
    ∧ ((∀ x ∈ history, x.2.key ≠ item.key) → AnswersNew ids start history now item)
    ∧ ∀ before time prior since, history = before ++ (time, prior) :: since →
      prior.key = item.key →
      KeptAlive capacity ttl item.key ((time, prior) :: since ++ [(now, item)]) →
      answer.1 = ((after ids start before).classify ids time prior).1 := by
  intro start answer
  refine ⟨?recent, ?unseen, ?alive⟩
  case recent =>
    rintro before time prior since rfl same others
    refine ⟨classify_of_recent ids sorted same others, ?_⟩
    intro stale
    exact answersNew_of_get_eq_none sorted distinct
      (get_eq_none_of_stale ids capacity sorted same others stale)
  case unseen =>
    intro unseen
    exact answersNew_of_get_eq_none sorted distinct
      (get_eq_none_of_unseen ids capacity ttl sorted unseen)
  case alive =>
    rintro before time prior since rfl same alive
    exact uuid_of_keptAlive sorted same alive

/-- An item that is seen again under another title, and one that is seen again too late. -/
theorem classify_of_history_sample :
    let ids := fun n => (⟨[.ofNat n]⟩ : Uuid)
    let item := Sample.webItem "a" "1" "First"
    let renamed := { item with title := "Second" }
    let other := Sample.webItem "a" "2" "Other"
    let answer := (after ids (new 2 10) [(0, item), (5, other)]).classify ids 8 renamed
    answer.1 = ids 1
      ∧ answer.2.1 = (if item.fingerprint = renamed.fingerprint then .unchanged else .updated)
      ∧ AnswersNew ids (new 2 10) [(0, item), (5, other)] 16 other := by
  intro ids item renamed other
  have distinct : ∀ m n, 0 < m → m < n → n ≤ 3 → ids m ≠ ids n := by
    have below : ∀ n ≤ 3, ∀ m < n, ids m ≠ ids n := by decide
    intro m n _ less few
    exact below n few m less
  have law (now : Nat) (i : Item) (late : 5 ≤ now) :=
    classify_of_history ids 2 10 [(0, item), (5, other)] now i (by simp [late]) distinct
  obtain ⟨recent, -⟩ := (law 8 renamed (by decide)).1 [] 0 item [(5, other)] rfl (by decide)
    (by decide)
  obtain ⟨-, stale⟩ := (law 16 other (by decide)).1 [(0, item)] 5 other [] rfl rfl (by simp)
  obtain ⟨uuid, state⟩ := recent (by decide) (by decide)
  exact ⟨uuid, state, stale (by decide)⟩

end

end TorznabGateway.SeenStore
