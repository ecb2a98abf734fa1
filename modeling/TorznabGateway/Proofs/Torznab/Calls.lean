import TorznabGateway.Proofs.Torznab.Decision

/-!
# Runs of requests

Requests come one after another, and what a request does to the cache is one of four things: it
finds its feed there, it stores one, or it does neither because its search fails, or because it is
not accepted. So a feed in the cache is the last that was stored under its key, and it is found as
long as it is young enough and not too many other keys were used since.

## Main definitions

* `TorznabResponder.Hits`, `TorznabResponder.Stores`: a request whose feed is in the cache, and one
  whose feed is stored there.
* `TorznabResponder.Effect`: what a request does to the cache.
* `TorznabResponder.run`: the state after a run of requests.
* `TorznabResponder.UsedSince`: a key used in a run after the last use of another.

## Main statements

* `TorznabResponder.effect_serve`: every request has one of these effects.
* `TorznabResponder.holds_run`: what is held after a run was held before, or stored by a request.
* `TorznabResponder.remembers_run`: what the cache remembers of a key after a run.
* `TorznabResponder.Stores.hits_later`: a stored feed is found again.
-/
namespace TorznabGateway

open Text

/-- A request, and the time at which it comes in. -/
structure TorznabCall where
  time : Nat
  selector : String
  request : TorznabRequest

namespace TorznabResponder

/-! ## One request -/

/-- The key of an accepted request in the cache. -/
def Accepted.key (a : Accepted) : String :=
  cacheKey a.indexers a.query

variable {r : TorznabResponder} {s : ResponderState} {c : TorznabCall} {a b : Accepted}
  {feed : Feed} {key : String}

def serve (r : TorznabResponder) (s : ResponderState) (c : TorznabCall) : ResponderStep :=
  r.respond s c.time c.selector c.request

/-- The time at which a request is answered. -/
def finish (r : TorznabResponder) (s : ResponderState) (c : TorznabCall) : Nat :=
  c.time + (r.serve s c).elapsed

/-- Whether a request is accepted and its feed is in the cache. -/
structure Hits (r : TorznabResponder) (s : ResponderState) (c : TorznabCall) (a : Accepted)
    (feed : Feed) : Prop where
  accepts : r.Accepts c.selector c.request a
  hit : (lookUp s c.time a).1 = some feed

/-- Whether a request is accepted, its feed is not in the cache, and the feed that its search gives
is stored there. -/
structure Stores (r : TorznabResponder) (s : ResponderState) (c : TorznabCall) (a : Accepted)
    (feed : Feed) : Prop where
  accepts : r.Accepts c.selector c.request a
  miss : (lookUp s c.time a).1 = none
  made : ∃ result, (r.searchFor s c.time a).result = .ok result
    ∧ feed = r.feedOf s c.time c.selector a result

/-- Whether a key is used by a request: its feed is found, or one is stored under it. -/
def Uses (r : TorznabResponder) (s : ResponderState) (c : TorznabCall) (key : String) : Prop :=
  ∃ a feed, (r.Hits s c a feed ∨ r.Stores s c a feed) ∧ a.key = key

theorem Uses.eq_key (h : r.Uses s c key) (accepts : r.Accepts c.selector c.request a) :
    a.key = key := by
  obtain ⟨b, feed, hits | stores, rfl⟩ := h
  · rw [accepts.unique hits.accepts]
  · rw [accepts.unique stores.accepts]

theorem Stores.unique {feed' : Feed} (h : r.Stores s c a feed) (h' : r.Stores s c b feed') :
    a = b ∧ feed = feed' := by
  obtain rfl := h.accepts.unique h'.accepts
  obtain ⟨result, made, rfl⟩ := h.made
  obtain ⟨result', made', rfl⟩ := h'.made
  obtain rfl : result = result' := by simpa [made] using made'
  exact ⟨rfl, rfl⟩

/-! ## What a request does to the cache -/

theorem Hits.not_stores {feed' : Feed} (h : r.Hits s c a feed) : ¬r.Stores s c b feed' := by
  intro stores
  obtain rfl := h.accepts.unique stores.accepts
  exact absurd h.hit (by simp [stores.miss])

theorem not_uses_of_refused (refused : ∀ a, ¬r.Accepts c.selector c.request a) (s : ResponderState)
    (key : String) : ¬r.Uses s c key := by
  rintro ⟨a, feed, hits | stores, -⟩
  · exact refused a hits.accepts
  · exact refused a stores.accepts

theorem not_uses_of_failure {e : AggregateError} (accepts : r.Accepts c.selector c.request a)
    (miss : (lookUp s c.time a).1 = none) (failure : (r.searchFor s c.time a).result = .error e)
    (key : String) : ¬r.Uses s c key := by
  rintro ⟨b, feed, hits | stores, -⟩
  · obtain rfl := accepts.unique hits.accepts
    exact absurd hits.hit (by simp [miss])
  · obtain rfl := accepts.unique stores.accepts
    obtain ⟨result, made, -⟩ := stores.made
    simp [failure] at made

/-- What a request does to the cache. -/
inductive Effect (r : TorznabResponder) (s : ResponderState) (c : TorznabCall) : Prop where
  /-- It finds its feed. -/
  | hit {a : Accepted} {feed : Feed} (hits : r.Hits s c a feed)
      (feeds : (r.serve s c).state.feeds = (s.feeds.get c.time a.key).2)
      (finish : r.finish s c = c.time)
  /-- It stores one. -/
  | stored {a : Accepted} {feed : Feed} (stores : r.Stores s c a feed)
      (feeds : (r.serve s c).state.feeds
        = (s.feeds.get c.time a.key).2.add (r.finish s c) a.key feed)
  /-- It finds none, and its search fails. -/
  | missed {key : String} (miss : (s.feeds.get c.time key).1 = none)
      (feeds : (r.serve s c).state.feeds = (s.feeds.get c.time key).2)
      (unused : ∀ k, ¬r.Uses s c k)
  /-- It is not accepted. -/
  | idle (feeds : (r.serve s c).state.feeds = s.feeds) (unused : ∀ k, ¬r.Uses s c k)

theorem effect_serve (r : TorznabResponder) (s : ResponderState) (c : TorznabCall) :
    r.Effect s c := by
  by_cases accepted : ∃ a, r.Accepts c.selector c.request a
  · obtain ⟨a, accepts⟩ := accepted
    cases accepts.answered s c.time with
    | cached hit answer state searches elapsed =>
      exact .hit ⟨accepts, hit⟩ (by rw [serve, state]; rfl) (by rw [finish, serve, elapsed]; rfl)
    | failed miss failure answer state searches elapsed =>
      exact .missed miss (by rw [serve, state]; rfl) (not_uses_of_failure accepts miss failure)
    | searched miss success answer state searches elapsed =>
      refine .stored ⟨accepts, miss, _, success, rfl⟩ ?_
      rw [finish, serve, state, elapsed]
      rfl
  · have refused := not_exists.1 accepted
    exact .idle (by rw [serve, (idle_of_not_accepts refused s c.time).1.state])
      (not_uses_of_refused refused s)

theorem finish_ge (r : TorznabResponder) (s : ResponderState) (c : TorznabCall) :
    c.time ≤ r.finish s c :=
  Nat.le_add_right c.time _

/-- A request that does not use a key stores nothing under it. -/
theorem key_ne_of_not_uses (unused : ¬r.Uses s c key) (a : Accepted) (feed : Feed)
    (stores : r.Stores s c a feed) : a.key ≠ key := by
  rintro rfl
  exact unused ⟨a, feed, .inr stores, rfl⟩

theorem bounds_serve (r : TorznabResponder) (s : ResponderState) (c : TorznabCall) :
    (r.serve s c).state.feeds.capacity = s.feeds.capacity
      ∧ (r.serve s c).state.feeds.ttl = s.feeds.ttl := by
  cases r.effect_serve s c with
  | hit _ feeds _ | stored _ feeds | missed _ feeds _ | idle feeds _ => simp [feeds]

/-- What is held after a request was held before and not replaced, or was stored by it. -/
theorem holds_serve (h : (r.serve s c).state.feeds.Holds key feed) :
    (s.feeds.Holds key feed ∧ ∀ a feed, r.Stores s c a feed → a.key ≠ key)
    ∨ ∃ a, r.Stores s c a feed ∧ a.key = key := by
  cases r.effect_serve s c with
  | hit hits feeds finish =>
    rw [feeds] at h
    exact .inl ⟨h.of_get, fun b _ stores => absurd stores hits.not_stores⟩
  | @stored a _ stores feeds =>
    rw [feeds] at h
    rcases h.of_add with ⟨rfl, rfl⟩ | ⟨other, held⟩
    · exact .inr ⟨a, stores, rfl⟩
    · refine .inl ⟨held.of_get, ?_⟩
      intro b feed stores'
      rw [← (stores.unique stores').1]
      exact Ne.symm other
  | missed miss feeds unused =>
    rw [feeds] at h
    exact .inl ⟨h.of_get, key_ne_of_not_uses (unused key)⟩
  | idle feeds unused =>
    rw [feeds] at h
    exact .inl ⟨h, key_ne_of_not_uses (unused key)⟩

/-- The other keys used since a key was, after a request that used its own. -/
theorem mem_afterUse {used : Finset String} (accepts : r.Accepts c.selector c.request a)
    (uses : r.Uses s c a.key) {k : String} (hk : k ∈ afterUse key a.key used) :
    (k ∈ used ∧ ¬r.Uses s c key) ∨ (k ≠ key ∧ r.Uses s c k) := by
  by_cases same : a.key = key
  · rw [same, afterUse_self] at hk
    cases hk
  · rw [afterUse_of_ne same, Finset.mem_insert] at hk
    rcases hk with rfl | hk
    · exact .inr ⟨same, uses⟩
    · exact .inl ⟨hk, fun h => same (h.eq_key accepts)⟩

/-- What the cache remembers of a key after a request: what the request stored under it, or what it
remembered before; and of the other keys used since, those that it knew before, unless the request
used the key, and the key that the request used. -/
theorem remembers_serve {now : Nat} {last : Option (Nat × Feed)} {used : Finset String}
    (h : s.feeds.Remembers now key last used) (le : now ≤ c.time) :
    ∃ last' used', (r.serve s c).state.feeds.Remembers (r.finish s c) key last' used'
      ∧ ((last' = last ∧ ∀ a feed, r.Stores s c a feed → a.key ≠ key)
        ∨ ∃ a feed, r.Stores s c a feed ∧ a.key = key ∧ last' = some (r.finish s c, feed))
      ∧ ∀ k ∈ used', (k ∈ used ∧ ¬r.Uses s c key) ∨ (k ≠ key ∧ r.Uses s c k) := by
  have known := h.later le
  cases r.effect_serve s c with
  | @hit a feed hits feeds finish =>
    have uses : r.Uses s c a.key := ⟨a, feed, .inl hits, rfl⟩
    have found : (s.feeds.get c.time a.key).1 = some feed := hits.hit
    have looked := known.get a.key
    rw [found, Option.isSome_some, if_pos rfl, ← feeds] at looked
    refine ⟨last, _, ?_, .inl ⟨rfl, ?_⟩, fun k hk => mem_afterUse hits.accepts uses hk⟩
    · rwa [finish]
    · exact fun b _ stores => absurd stores hits.not_stores
  | @stored a feed stores feeds =>
    have uses : r.Uses s c a.key := ⟨a, feed, .inr stores, rfl⟩
    have miss : (s.feeds.get c.time a.key).1 = none := stores.miss
    have looked := known.get a.key
    rw [miss, Option.isSome_none, if_neg Bool.false_ne_true] at looked
    have added := (looked.later (r.finish_ge s c)).add a.key feed
    rw [← feeds] at added
    refine ⟨_, _, added, ?_, fun k hk => mem_afterUse stores.accepts uses hk⟩
    by_cases same : a.key = key
    · exact .inr ⟨a, feed, stores, same, if_pos same⟩
    · refine .inl ⟨if_neg same, ?_⟩
      intro b feed stores'
      rwa [← (stores.unique stores').1]
  | @missed k miss feeds unused =>
    have looked := known.get k
    rw [miss, Option.isSome_none, if_neg Bool.false_ne_true, ← feeds] at looked
    exact ⟨last, used, looked.later (r.finish_ge s c), .inl ⟨rfl, key_ne_of_not_uses (unused key)⟩,
      fun k hk => .inl ⟨hk, unused key⟩⟩
  | idle feeds unused =>
    rw [← feeds] at known
    exact ⟨last, used, known.later (r.finish_ge s c), .inl ⟨rfl, key_ne_of_not_uses (unused key)⟩,
      fun k hk => .inl ⟨hk, unused key⟩⟩

/-! ## Answers -/

/-- What is answered on a hit. -/
theorem Hits.answer (h : r.Hits s c a feed) : (r.serve s c).searches = []
    ∧ (r.serve s c).state.seen = s.seen ∧ (r.serve s c).outcome = encoded a feed := by
  have hit := h.hit
  cases h.accepts.answered s c.time with
  | cached found answer state searches elapsed =>
    obtain rfl := Option.some.inj (hit.symm.trans found)
    exact ⟨searches, by rw [serve, state], answer⟩
  | failed miss _ _ _ _ _ | searched miss _ _ _ _ _ =>
    simp [miss] at hit

/-- What is answered when a feed is stored. -/
theorem Stores.answer (h : r.Stores s c a feed) : (r.serve s c).outcome = encoded a feed := by
  obtain ⟨result, made, rfl⟩ := h.made
  cases h.accepts.answered s c.time with
  | cached found _ _ _ _ => simp [h.miss] at found
  | failed _ failure _ _ _ _ => simp [made] at failure
  | searched _ success answer _ _ _ =>
    obtain rfl := Except.ok.inj (made.symm.trans success)
    exact answer

/-- A request that is answered with a feed and starts no search hits. -/
theorem hits_of_searches_eq_nil {e : EncodedFeed} (answer : (r.serve s c).outcome = .feed e)
    (no_search : (r.serve s c).searches = []) :
    ∃ a feed, r.Hits s c a feed ∧ (r.serve s c).outcome = encoded a feed := by
  by_cases accepted : ∃ a, r.Accepts c.selector c.request a
  · obtain ⟨a, accepts⟩ := accepted
    have some_searches : (a.indexers.map fun i => (i.name, a.query)) ≠ [] := by
      simpa using (Registry.mem_of_resolve accepts.named).1
    cases accepts.answered s c.time with
    | cached hit answer _ _ _ => exact ⟨a, _, ⟨accepts, hit⟩, answer⟩
    | failed _ _ _ _ searches _ | searched _ _ _ _ searches _ =>
      exact absurd (searches.symm.trans no_search) some_searches
  · obtain ⟨-, no_feed⟩ := idle_of_not_accepts (not_exists.1 accepted) s c.time
    rw [← serve, answer] at no_feed
    simp [TorznabOutcome.WithoutFeed] at no_feed

/-! ## Runs -/

/-- The state after a run of requests. -/
def run (r : TorznabResponder) (s : ResponderState) (calls : List TorznabCall) : ResponderState :=
  calls.foldl (fun s c => (r.serve s c).state) s

/-- Whether the requests of a run come between two times, each not before the one ahead of it is
answered. -/
def Timely (r : TorznabResponder) : ResponderState → Nat → List TorznabCall → Nat → Prop
  | _, now, [], next => now ≤ next
  | s, now, c :: rest, next =>
    now ≤ c.time ∧ Timely r (r.serve s c).state (r.finish s c) rest next

/-- Whether no request of a run stores a feed under a key. -/
def NeverStores (r : TorznabResponder) (key : String) : ResponderState → List TorznabCall → Prop
  | _, [] => True
  | s, c :: rest =>
    (∀ a feed, r.Stores s c a feed → a.key ≠ key) ∧ NeverStores r key (r.serve s c).state rest

/-- Whether no request of a run uses a key. -/
def NeverUses (r : TorznabResponder) (key : String) : ResponderState → List TorznabCall → Prop
  | _, [] => True
  | s, c :: rest => ¬r.Uses s c key ∧ NeverUses r key (r.serve s c).state rest

/-- Whether `k` is used by a request of a run after which no request uses `key`. -/
def UsedSince (r : TorznabResponder) (key k : String) : ResponderState → List TorznabCall → Prop
  | _, [] => False
  | s, c :: rest => (r.Uses s c k ∧ NeverUses r key (r.serve s c).state rest)
    ∨ UsedSince r key k (r.serve s c).state rest

variable {calls rest : List TorznabCall} {now next : Nat}

@[simp] theorem run_nil (r : TorznabResponder) (s : ResponderState) : r.run s [] = s := rfl

@[simp] theorem run_cons (r : TorznabResponder) (s : ResponderState) (c : TorznabCall)
    (rest : List TorznabCall) : r.run s (c :: rest) = r.run (r.serve s c).state rest := rfl

theorem run_append (r : TorznabResponder) (s : ResponderState) (xs ys : List TorznabCall) :
    r.run s (xs ++ ys) = r.run (r.run s xs) ys :=
  List.foldl_append

theorem bounds_run (r : TorznabResponder) (s : ResponderState) (calls : List TorznabCall) :
    (r.run s calls).feeds.capacity = s.feeds.capacity
      ∧ (r.run s calls).feeds.ttl = s.feeds.ttl := by
  induction calls generalizing s with
  | nil => exact ⟨rfl, rfl⟩
  | cons c rest ih =>
    obtain ⟨capacity, ttl⟩ := bounds_serve r s c
    rw [run_cons, (ih _).1, (ih _).2]
    exact ⟨capacity, ttl⟩

theorem Timely.append {xs ys : List TorznabCall} (h : r.Timely s now (xs ++ ys) next) :
    ∃ mid, r.Timely s now xs mid ∧ r.Timely (r.run s xs) mid ys next := by
  induction xs generalizing s now with
  | nil => exact ⟨now, Nat.le_refl now, h⟩
  | cons c rest ih =>
    obtain ⟨mid, first, second⟩ := ih h.2
    exact ⟨mid, ⟨h.1, first⟩, second⟩

/-- What is held after a run was held before and not replaced, or was stored by a request of it and
not replaced since. -/
theorem holds_run (h : (r.run s calls).feeds.Holds key feed) :
    (s.feeds.Holds key feed ∧ r.NeverStores key s calls)
    ∨ ∃ before storer since a, calls = before ++ storer :: since
      ∧ r.Stores (r.run s before) storer a feed ∧ a.key = key
      ∧ r.NeverStores key (r.serve (r.run s before) storer).state since := by
  induction calls generalizing s with
  | nil => exact .inl ⟨h, trivial⟩
  | cons c rest ih =>
    obtain ⟨held, kept⟩ | ⟨before, storer, since, a, rfl, stored⟩ := ih h
    · obtain ⟨held, other⟩ | ⟨a, stored, same⟩ := holds_serve held
      · exact .inl ⟨held, other, kept⟩
      · exact .inr ⟨[], c, rest, a, rfl, stored, same, kept⟩
    · exact .inr ⟨c :: before, storer, since, a, rfl, stored⟩

/-- What the cache remembers of a key after a run. -/
theorem remembers_run {last : Option (Nat × Feed)} {used : Finset String}
    (h : s.feeds.Remembers now key last used) (timely : r.Timely s now calls next) :
    ∃ last' used', (r.run s calls).feeds.Remembers next key last' used'
      ∧ (r.NeverStores key s calls → last' = last)
      ∧ ∀ k ∈ used', (k ∈ used ∧ r.NeverUses key s calls)
        ∨ (k ≠ key ∧ r.UsedSince key k s calls) := by
  induction calls generalizing s now last used with
  | nil => exact ⟨last, used, h.later timely, fun _ => rfl, fun k hk => .inl ⟨hk, trivial⟩⟩
  | cons c rest ih =>
    obtain ⟨last₁, used₁, known, stored, uses⟩ := remembers_serve (r := r) h timely.1
    obtain ⟨last', used', known', kept, uses'⟩ := ih known timely.2
    refine ⟨last', used', known', ?_, ?_⟩
    · rintro ⟨other, never⟩
      obtain ⟨same, -⟩ | ⟨a, feed, stores, same, -⟩ := stored
      · exact (kept never).trans same
      · exact absurd same (other a feed stores)
    · intro k hk
      obtain ⟨hk, never⟩ | ⟨ne, since⟩ := uses' k hk
      · obtain ⟨hk, unused⟩ | ⟨ne, here⟩ := uses k hk
        · exact .inl ⟨hk, unused, never⟩
        · exact .inr ⟨ne, .inl ⟨here, never⟩⟩
      · exact .inr ⟨ne, .inr since⟩

/-! ## Stored feeds -/

/-- What the cache remembers of the key of a stored feed after further requests that store no feed
under it. -/
theorem remembers_stored (capacity ttl : Nat) (seen : SeenStore) {before between : List TorznabCall}
    {first : TorznabCall}
    (timely : r.Timely ⟨.new capacity ttl, seen⟩ now (before ++ first :: between) next)
    (stored : r.Stores (r.run ⟨.new capacity ttl, seen⟩ before) first a feed)
    (kept : r.NeverStores a.key (r.serve (r.run ⟨.new capacity ttl, seen⟩ before) first).state
      between) :
    ∃ used, (r.run ⟨.new capacity ttl, seen⟩ (before ++ first :: between)).feeds.Remembers next
        a.key (some (r.finish (r.run ⟨.new capacity ttl, seen⟩ before) first, feed)) used
      ∧ ∀ k ∈ used, k ≠ a.key ∧ r.UsedSince a.key k
        (r.serve (r.run ⟨.new capacity ttl, seen⟩ before) first).state between := by
  obtain ⟨mid, timely, starts, timely'⟩ := timely.append
  obtain ⟨last, used, known, -⟩ := remembers_run (TtlCache.Remembers.new capacity ttl now a.key)
    timely
  obtain ⟨last₁, used₁, known₁, stores, uses⟩ := remembers_serve known starts
  obtain ⟨last₂, used₂, known₂, same, uses'⟩ := remembers_run known₁ timely'
  have here : r.Uses (r.run ⟨.new capacity ttl, seen⟩ before) first a.key :=
    ⟨a, feed, .inr stored, rfl⟩
  have stored_last : last₁
      = some (r.finish (r.run ⟨.new capacity ttl, seen⟩ before) first, feed) := by
    obtain ⟨-, other⟩ | ⟨b, feed', stored', -, rfl⟩ := stores
    · exact absurd rfl (other a feed stored)
    · rw [(stored.unique stored').2]
  refine ⟨used₂, ?_, ?_⟩
  · rw [run_append, run_cons, ← stored_last, ← same kept]
    exact known₂
  · intro k hk
    obtain ⟨hk, -⟩ | since := uses' k hk
    · obtain ⟨-, unused⟩ | ⟨ne, other⟩ := uses k hk
      · exact absurd here unused
      · exact absurd (other.eq_key stored.accepts).symm ne
    · exact since

/-- A stored feed is found again under its key. -/
theorem Stores.hits_later {capacity ttl start : Nat} {seen : SeenStore}
    {before between : List TorznabCall} {first later : TorznabCall} {used : Finset String}
    (stored : r.Stores (r.run ⟨.new capacity ttl, seen⟩ before) first a feed)
    (timely : r.Timely ⟨.new capacity ttl, seen⟩ start (before ++ first :: between) later.time)
    (kept : r.NeverStores a.key (r.serve (r.run ⟨.new capacity ttl, seen⟩ before) first).state
      between)
    (others : ∀ k, k ≠ a.key → r.UsedSince a.key k
      (r.serve (r.run ⟨.new capacity ttl, seen⟩ before) first).state between → k ∈ used)
    (few : used.card < max capacity 1)
    (young : later.time ≤ r.finish (r.run ⟨.new capacity ttl, seen⟩ before) first + ttl)
    (accepts : r.Accepts later.selector later.request b) (same : b.key = a.key) :
    r.Hits (r.run ⟨.new capacity ttl, seen⟩ (before ++ first :: between)) later b feed := by
  obtain ⟨used', known, uses⟩ := remembers_stored capacity ttl seen timely stored kept
  obtain ⟨hc, ht⟩ := bounds_run r ⟨.new capacity ttl, seen⟩ (before ++ first :: between)
  have sub : used' ⊆ used := by
    intro k hk
    obtain ⟨ne, since⟩ := uses k hk
    exact others k ne since
  have found := known.get_eq_some rfl (by rw [ht]; exact young)
    ((Finset.card_le_card sub).trans_lt (by rw [hc]; exact few))
  rw [← same] at found
  exact ⟨accepts, found⟩

end TorznabResponder

end TorznabGateway
