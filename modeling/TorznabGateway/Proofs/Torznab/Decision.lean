import TorznabGateway.Proofs.Cache.Memory
import TorznabGateway.Proofs.Indexer.Registry
import TorznabGateway.Proofs.Indexer.Union
import TorznabGateway.Proofs.Torznab.Parameters
import TorznabGateway.Torznab.Responder

/-!
# How a request is decided

The checks of a request in their order, and what a request gets that fails one of them. A request is
accepted if it passes them all; it is then answered from the cache, or by a search. What is refused
before that leaves no trace, and a search in which every indexer fails leaves none in the sightings
and takes no more than an expired entry from the cache.

## Main definitions

* `TorznabResponder.Accepts`: the request passes all checks.
* `TorznabResponder.Answered`: how an accepted request is answered.
* `TorznabResponder.Decided`: how a request is decided, with what led there.

## Main statements

* `TorznabResponder.decided_respond`: every request is decided in one of these ways.
* `TorznabResponder.respond_decides`: the decision together with its effects.
-/
namespace TorznabGateway

open Text

/-! ## One check -/

theorem Auth.authenticate_eq_ok_iff {secret : SharedSecret} {candidate : Option String} :
    (authenticate secret candidate).1 = .ok ()
      ↔ candidate = some secret.display ∧ secret.display ≠ "" := by
  cases candidate with
  | none => simp [authenticate]
  | some key =>
    by_cases empty : key = ""
    · subst empty
      simp [authenticate]
    · by_cases same : key = secret.display
      · subst same
        simp [authenticate, checkKey, empty]
      · simp [authenticate, checkKey, empty, same]

theorem FeedFormat.ofParameter_eq_error {value : Option String} {fault : RequestFault}
    (h : ofParameter value = .error fault) : ∃ name, value.bind nonBlank? = some name
      ∧ asciiLower name ∉ ["xml", "rss", "atom", "json"] ∧ fault = .unknownFormat name := by
  unfold ofParameter at h
  cases given : value.bind nonBlank? with
  | none => simp [given] at h
  | some name => grind

/-- A search over some indexers fails only if all of them do, and then nothing was classified. -/
theorem SearchAggregator.search_eq_error {a : SearchAggregator} {wall : Nat → Time.Moment}
    {indexers : List Indexer} {now : Nat} {q : SearchQuery} {seen : SeenStore} {e : AggregateError}
    (some_indexers : indexers ≠ []) (h : (a.search wall indexers now q seen).result = .error e) :
    (∃ errors, e = .allSourcesFailed errors) ∧ (a.search wall indexers now q seen).seen = seen := by
  have nonempty : indexers.isEmpty = false := by simpa using some_indexers
  simp only [search, nonempty] at h ⊢
  unfold consume at h ⊢
  grind

/-! ## Decisions -/

/-- Whether a request asks for anything but the capabilities. -/
def TorznabRequest.IsSearch (request : TorznabRequest) : Prop :=
  request.function? ≠ none ∧ request.isCaps = false

/-- Whether an outcome is an error with a code, a status and a description. -/
def TorznabOutcome.IsError (o : TorznabOutcome) (code status : Nat) (description : String) : Prop :=
  ∃ e : TorznabError, o = .error e ∧ e.code = code ∧ e.status = status
    ∧ e.description = description

/-- Whether an outcome is the way to the capabilities, the capabilities, or an error. -/
def TorznabOutcome.WithoutFeed (o : TorznabOutcome) : Prop :=
  (∃ location, o = .redirect location) ∨ (∃ xml, o = .caps xml) ∨ ∃ e, o = .error e

theorem TorznabOutcome.IsError.withoutFeed {o : TorznabOutcome} {code status : Nat}
    {description : String} (h : o.IsError code status description) : o.WithoutFeed := by
  obtain ⟨e, rfl, -⟩ := h
  exact .inr (.inr ⟨e, rfl⟩)

namespace ResponderStep

/-- Whether nothing was done for an answer: no search, and nothing changed. -/
structure Idle (step : ResponderStep) (s : ResponderState) : Prop where
  state : step.state = s
  searches : step.searches = []
  elapsed : step.elapsed = 0

/-- Whether the sightings are the same as before, and the cache has the same entries but for some
that are too old. -/
structure LeavesAlone (step : ResponderStep) (s : ResponderState) (now : Nat) : Prop where
  seen : step.state.seen = s.seen
  gains : ∀ key e, step.state.feeds.store.find? key = some e → s.feeds.store.find? key = some e
  loses : ∀ key e, s.feeds.store.find? key = some e →
    CacheStore.isExpired s.feeds.ttl now e = false → step.state.feeds.store.find? key = some e

theorem Idle.leavesAlone {step : ResponderStep} {s : ResponderState} (idle : step.Idle s)
    (now : Nat) : step.LeavesAlone s now where
  seen := by rw [idle.state]
  gains key e := by simp [idle.state]
  loses key e stored _ := by rwa [idle.state]

end ResponderStep

namespace TorznabResponder

variable {r : TorznabResponder} {s : ResponderState} {now : Nat} {selector : String}
  {request : TorznabRequest} {a : Accepted} {step : ResponderStep}

/-- Whether a request has the key. An empty key counts as a missing one. -/
def Unlocks (r : TorznabResponder) (request : TorznabRequest) : Prop :=
  request.apikey = some r.secret.display ∧ r.secret.display ≠ ""

/-- Whether a request passes all checks, and as what. -/
structure Accepts (r : TorznabResponder) (selector : String) (request : TorznabRequest)
    (a : Accepted) : Prop where
  search : request.IsSearch
  key : r.Unlocks request
  named : r.registry.resolve selector = .ok a.indexers
  query : request.toQuery = .ok a.query
  offered : ∃ i ∈ a.indexers, i.capabilities.supports a.query.function
  format : request.feedFormat = .ok a.format

/-- What a look-up in the cache gives for an accepted request. -/
def lookUp (s : ResponderState) (now : Nat) (a : Accepted) : Option Feed × TtlCache String Feed :=
  s.feeds.get now (cacheKey a.indexers a.query)

/-- The search for an accepted request. -/
def searchFor (r : TorznabResponder) (s : ResponderState) (now : Nat) (a : Accepted) :
    AggregateOutcome :=
  r.aggregator.search r.wall a.indexers now a.query s.seen

/-- The feed that is made of the result of a search. -/
def feedOf (r : TorznabResponder) (s : ResponderState) (now : Nat) (selector : String)
    (a : Accepted) (result : AggregateResult) : Feed where
  about := r.feedMeta selector a (r.wall (now + (r.searchFor s now a).elapsed))
  items := result.items.map .tracked

/-- How an accepted request is answered. -/
inductive Answered (r : TorznabResponder) (s : ResponderState) (now : Nat) (selector : String)
    (a : Accepted) (step : ResponderStep) : Prop where
  | cached {feed : Feed} (hit : (lookUp s now a).1 = some feed)
      (answer : step.outcome = encoded a feed)
      (state : step.state = ⟨(lookUp s now a).2, s.seen⟩) (searches : step.searches = [])
      (elapsed : step.elapsed = 0)
  | failed {errors : Named IndexerError} (miss : (lookUp s now a).1 = none)
      (failure : (r.searchFor s now a).result = .error (.allSourcesFailed errors))
      (answer : step.outcome.IsError 900 500 "Unknown error: All indexers failed")
      (state : step.state = ⟨(lookUp s now a).2, s.seen⟩)
      (searches : step.searches = a.indexers.map fun i => (i.name, a.query))
      (elapsed : step.elapsed = (r.searchFor s now a).elapsed)
  | searched {result : AggregateResult} (miss : (lookUp s now a).1 = none)
      (success : (r.searchFor s now a).result = .ok result)
      (answer : step.outcome = encoded a (r.feedOf s now selector a result))
      (state : step.state = ⟨(lookUp s now a).2.add (now + (r.searchFor s now a).elapsed)
        (cacheKey a.indexers a.query) (r.feedOf s now selector a result),
        (r.searchFor s now a).seen⟩)
      (searches : step.searches = a.indexers.map fun i => (i.name, a.query))
      (elapsed : step.elapsed = (r.searchFor s now a).elapsed)

/-- How a request is decided: what it passed, what it failed, and what it gets for it. -/
inductive Decided (r : TorznabResponder) (s : ResponderState) (now : Nat) (selector : String)
    (request : TorznabRequest) (step : ResponderStep) : Prop where
  | redirected (blank : request.function? = none)
      (answer : step.outcome = .redirect (capsLocation selector)) (idle : step.Idle s)
  | described {indexers : List Indexer} (caps : request.isCaps = true)
      (named : r.registry.resolve selector = .ok indexers)
      (answer : step.outcome = .caps (CapsDocument.render (title indexers) (mergedCaps indexers)))
      (idle : step.Idle s)
  | undescribed {e : ResolveError} (caps : request.isCaps = true)
      (unnamed : r.registry.resolve selector = .error e)
      (answer : step.outcome.IsError 201 400 ("Incorrect parameter: " ++ e.message))
      (idle : step.Idle s)
  | locked (search : request.IsSearch) (locked : ¬r.Unlocks request)
      (answer : step.outcome.IsError 102 401 "Insufficient privileges") (idle : step.Idle s)
  | unnamed {e : ResolveError} (search : request.IsSearch) (key : r.Unlocks request)
      (unnamed : r.registry.resolve selector = .error e)
      (answer : step.outcome.IsError 201 400 ("Incorrect parameter: " ++ e.message))
      (idle : step.Idle s)
  | unreadable {indexers : List Indexer} {fault : RequestFault} (search : request.IsSearch)
      (key : r.Unlocks request) (named : r.registry.resolve selector = .ok indexers)
      (unreadable : ¬request.Readable) (query : request.toQuery = .error fault)
      (answer : step.outcome.IsError 201 400 ("Incorrect parameter: " ++ fault.message))
      (idle : step.Idle s)
  | notOffered {indexers : List Indexer} {q : SearchQuery} (search : request.IsSearch)
      (key : r.Unlocks request) (named : r.registry.resolve selector = .ok indexers)
      (query : request.toQuery = .ok q)
      (notOffered : ∀ i ∈ indexers, ¬i.capabilities.supports q.function)
      (answer : step.outcome.IsError 203 400 ("Function not available: " ++ q.function.name))
      (idle : step.Idle s)
  | unknownFormat {indexers : List Indexer} {q : SearchQuery} {name : String}
      (search : request.IsSearch) (key : r.Unlocks request)
      (named : r.registry.resolve selector = .ok indexers) (query : request.toQuery = .ok q)
      (offered : ∃ i ∈ indexers, i.capabilities.supports q.function)
      (format : request.format.bind nonBlank? = some name)
      (unknown : asciiLower name ∉ ["xml", "rss", "atom", "json"])
      (answer : step.outcome.IsError 201 400
        ("Incorrect parameter: format '" ++ asciiLower name ++ "'"))
      (idle : step.Idle s)
  | answered {a : Accepted} (accepts : r.Accepts selector request a)
      (answered : r.Answered s now selector a step)

theorem supports_mergedCaps {indexers : List Indexer} {f : SearchFunction} :
    (mergedCaps indexers).supports f ↔ ∃ i ∈ indexers, i.capabilities.supports f := by
  simp [mergedCaps, Capabilities.supports_merge]

/-- A request with the key is accepted, or fails the first of the checks that it does not pass. -/
theorem accept_cases (r : TorznabResponder) (selector : String) (search : request.IsSearch)
    (key : r.Unlocks request) :
    (∃ a, r.accept selector request = .ok a ∧ r.Accepts selector request a)
    ∨ ∃ e, r.accept selector request = .error e ∧ ∀ s now step, step.outcome = .error e →
      step.Idle s → r.Decided s now selector request step := by
  unfold accept resolve
  cases named : r.registry.resolve selector with
  | error e =>
    refine .inr ⟨_, rfl, ?_⟩
    intro s now step answer idle
    exact .unnamed search key named ⟨_, answer, rfl, rfl, rfl⟩ idle
  | ok indexers =>
    cases query : request.toQuery with
    | error fault =>
      have unreadable : ¬request.Readable := by
        rw [← TorznabRequest.exists_toQuery_iff, query]
        simp
      refine .inr ⟨_, rfl, ?_⟩
      intro s now step answer idle
      exact .unreadable search key named unreadable query ⟨_, answer, rfl, rfl, rfl⟩ idle
    | ok q =>
      by_cases offered : (mergedCaps indexers).supports q.function
      · have some_offer := supports_mergedCaps.1 offered
        cases format : request.feedFormat with
        | error fault =>
          obtain ⟨name, given, unknown, rfl⟩ := FeedFormat.ofParameter_eq_error format
          refine .inr ⟨_, by simp [Except.mapError, offered, bind, Except.bind]; rfl, ?_⟩
          intro s now step answer idle
          exact .unknownFormat search key named query some_offer given unknown
            ⟨_, answer, rfl, rfl, rfl⟩ idle
        | ok format' =>
          refine .inl ⟨⟨indexers, q, format'⟩, ?_, search, key, named, query, some_offer, format⟩
          simp [Except.mapError, offered, bind, Except.bind]
          rfl
      · have none_offers : ∀ i ∈ indexers, ¬i.capabilities.supports q.function := by
          rintro i hi supports
          exact offered (supports_mergedCaps.2 ⟨i, hi, supports⟩)
        refine .inr ⟨_, by simp [Except.mapError, offered, bind, Except.bind]; rfl, ?_⟩
        intro s now step answer idle
        exact .notOffered search key named query none_offers ⟨_, answer, rfl, rfl, rfl⟩ idle

/-- What an accepted request is answered with does not depend on what was observed before. -/
theorem Answered.observed (h : r.Answered s now selector a step) (observed : List Observation) :
    r.Answered s now selector a { step with observed } := by
  cases h with
  | cached hit answer state searches elapsed => exact .cached hit answer state searches elapsed
  | failed miss failure answer state searches elapsed =>
    exact .failed miss failure answer state searches elapsed
  | searched miss success answer state searches elapsed =>
    exact .searched miss success answer state searches elapsed

/-- An accepted request is answered from the cache, or by a search. -/
theorem answered_answer (r : TorznabResponder) (s : ResponderState) (now : Nat)
    (selector : String) (some_indexers : a.indexers ≠ []) :
    r.Answered s now selector a (r.answer s now selector a) := by
  cases looked : (lookUp s now a).1 with
  | some feed =>
    have hit : r.answer s now selector a
        = { outcome := encoded a feed, state := ⟨(lookUp s now a).2, s.seen⟩ } := by
      rw [lookUp] at looked
      simp only [answer, looked]
      rfl
    rw [hit]
    exact .cached looked rfl rfl rfl rfl
  | none =>
    have missed := looked
    rw [lookUp] at missed
    cases result : (r.searchFor s now a).result with
    | error e =>
      obtain ⟨⟨errors, rfl⟩, unseen⟩ := SearchAggregator.search_eq_error some_indexers result
      have failure := result
      rw [searchFor] at result
      simp only [answer, missed, result]
      exact .failed looked failure ⟨_, rfl, rfl, rfl, rfl⟩ (by rw [unseen]; rfl) rfl rfl
    | ok result' =>
      have success := result
      rw [searchFor] at result
      simp only [answer, missed, result]
      exact .searched looked success rfl rfl rfl rfl

/-- Every request is decided in one of the ways. -/
theorem decided_respond (r : TorznabResponder) (s : ResponderState) (now : Nat) (selector : String)
    (request : TorznabRequest) :
    r.Decided s now selector request (r.respond s now selector request) := by
  unfold respond
  by_cases blank : request.function?.isNone
  · rw [if_pos blank]
    exact .redirected (Option.isNone_iff_eq_none.1 blank) rfl ⟨rfl, rfl, rfl⟩
  rw [if_neg blank]
  by_cases caps : request.isCaps
  · rw [if_pos caps]
    cases named : r.registry.resolve selector with
    | error e =>
      have answer : r.caps selector = .error (.incorrectParameter e.message) := by
        simp only [TorznabResponder.caps, resolve, named]
      exact .undescribed caps named ⟨_, answer, rfl, rfl, rfl⟩ ⟨rfl, rfl, rfl⟩
    | ok indexers =>
      exact .described caps named (by simp only [TorznabResponder.caps, resolve, named])
        ⟨rfl, rfl, rfl⟩
  rw [if_neg caps]
  have search : request.IsSearch := ⟨by simpa using blank, by simpa using caps⟩
  by_cases key : r.Unlocks request
  · have authenticated := Auth.authenticate_eq_ok_iff.2 key
    obtain ⟨a, accepted, accepts⟩ | ⟨e, refused, decides⟩ := accept_cases r selector
      search key
    · have answered := r.answered_answer s now selector (Registry.mem_of_resolve accepts.named).1
      simp only [authenticated, accepted]
      exact .answered accepts (answered.observed _)
    · simp only [authenticated, refused]
      exact decides s now _ rfl ⟨rfl, rfl, rfl⟩
  · cases authenticated : (Auth.authenticate r.secret request.apikey).1 with
    | ok u => exact absurd (Auth.authenticate_eq_ok_iff.1 authenticated) key
    | error e =>
      simp only [authenticated]
      exact .locked search key ⟨_, rfl, rfl, rfl, rfl⟩ ⟨rfl, rfl, rfl⟩

/-- A request is accepted as one thing only. -/
theorem Accepts.unique {b : Accepted} (ha : r.Accepts selector request a)
    (hb : r.Accepts selector request b) : a = b := by
  have named := ha.named.symm.trans hb.named
  have query := ha.query.symm.trans hb.query
  have format := ha.format.symm.trans hb.format
  cases a
  cases b
  simp_all

/-- An accepted request is answered as such. -/
theorem Accepts.answered (accepts : r.Accepts selector request a) (s : ResponderState)
    (now : Nat) : r.Answered s now selector a (r.respond s now selector request) := by
  have accepted : r.accept selector request = .ok a := by
    simp [accept, resolve, accepts.named, accepts.query, accepts.format, Except.mapError, bind,
      Except.bind, supports_mergedCaps.2 accepts.offered, pure, Except.pure]
  have named : request.function?.isNone = false :=
    Option.isNone_eq_false_iff.2 (Option.isSome_iff_ne_none.2 accepts.search.1)
  have authenticated := Auth.authenticate_eq_ok_iff.2 accepts.key
  have answered := r.answered_answer s now selector (Registry.mem_of_resolve accepts.named).1
  simp only [respond, named, accepts.search.2, authenticated, accepted]
  exact answered.observed _

/-- Nothing is done for a request that is not accepted, and it gets no feed. -/
theorem idle_of_not_accepts (refused : ∀ a, ¬r.Accepts selector request a) (s : ResponderState)
    (now : Nat) : (r.respond s now selector request).Idle s
      ∧ (r.respond s now selector request).outcome.WithoutFeed := by
  cases r.decided_respond s now selector request with
  | redirected _ answer idle => exact ⟨idle, .inl ⟨_, answer⟩⟩
  | described _ _ answer idle => exact ⟨idle, .inr (.inl ⟨_, answer⟩)⟩
  | undescribed _ _ answer idle | locked _ _ answer idle | unnamed _ _ _ answer idle
  | unreadable _ _ _ _ _ answer idle | notOffered _ _ _ _ _ answer idle
  | unknownFormat _ _ _ _ _ _ _ answer idle => exact ⟨idle, answer.withoutFeed⟩
  | answered accepts _ => exact absurd accepts (refused _)

/-! ## Effects -/

theorem not_withoutFeed_encoded (a : Accepted) (f : Feed) : ¬(encoded a f).WithoutFeed := by
  unfold encoded TorznabOutcome.WithoutFeed
  cases f.encode? a.format <;> simp

/-- How a request is decided, and what it may do that is not answered by a feed: it adds no entry to
the cache and takes none that is fresh, leaves the sightings alone, and starts a search only if that
fails. -/
theorem respond_decides (r : TorznabResponder) (s : ResponderState) (now : Nat) (selector : String)
    (request : TorznabRequest) :
    let step := r.respond s now selector request
    r.Decided s now selector request step
    ∧ (step.outcome.WithoutFeed → step.LeavesAlone s now
      ∧ (step.searches = [] ∨ step.outcome.IsError 900 500 "Unknown error: All indexers failed"))
    := by
  intro step
  have decided := r.decided_respond s now selector request
  refine ⟨decided, ?_⟩
  intro no_feed
  cases decided with
  | redirected _ _ idle | described _ _ _ idle | undescribed _ _ _ idle | locked _ _ _ idle
  | unnamed _ _ _ _ idle | unreadable _ _ _ _ _ _ idle | notOffered _ _ _ _ _ _ idle
  | unknownFormat _ _ _ _ _ _ _ _ idle =>
    exact ⟨idle.leavesAlone now, .inl idle.searches⟩
  | answered _ answered =>
    cases answered with
    | failed miss _ answer state _ _ =>
      have kept := TtlCache.find?_of_get_eq_none miss
      refine ⟨⟨?_, ?_, ?_⟩, .inr answer⟩
      · rw [state]
      · intro key e stored
        rw [state] at stored
        exact (kept key e).1 stored
      · intro key e stored fresh
        rw [state]
        exact (kept key e).2 stored fresh
    | cached _ answer _ _ _ | searched _ _ answer _ _ _ =>
      exact absurd (answer ▸ no_feed) (not_withoutFeed_encoded _ _)

end TorznabResponder

end TorznabGateway
