import TorznabGateway.Indexer.Scripted
import TorznabGateway.Proofs.Search.CacheKey
import TorznabGateway.Proofs.Torznab.Calls
import TorznabGateway.Proofs.Torznab.Queries

/-!
# Feeds from the cache

A request that is answered from the cache gets a feed that an earlier one had made and stored, the
last under its key. The key gives away the names of the indexers, and the query as far as the text
under its own key does: a line feed in a season or an episode can make two different searches share
a key.

As long as a stored feed is young enough, no other was stored under its key, and not too many other
keys were used since, every request with its key gets that very feed, and nothing else happens.
Without the second of these it can be another feed, for a feed that is evicted is made anew.

## Main statements

* `TorznabResponder.cached_feed_origin`: the request whose search made a cached feed.
* `TorznabResponder.cached_feed_of_other_season`: a cached feed of another search.
* `TorznabResponder.feed_again`: a request that gets the feed of an earlier one again.
* `TorznabResponder.feed_made_anew`: a request that gets another feed than an earlier one.
-/
namespace TorznabGateway.TorznabResponder

open Text

variable {r : TorznabResponder} {a b : Accepted}

/-! ## A quiet gateway -/

/-- A gateway with one indexer, which has nothing. -/
def quiet : TorznabResponder where
  registry := { indexers := [({ name := "a" } : Script).toIndexer] }
  secret := ⟨Utf8.encode "k", .apiKey⟩
  aggregator := { issuer := .new "http://nab.example" ⟨Utf8.encode "k", .apiKey⟩, ids := default }
  publicUrl := "http://nab.example"
  wall time := ⟨time, 0⟩

/-- A query to the one indexer, in the form of an accepted request. -/
def Accepted.quiet (query : SearchQuery) (format : FeedFormat) : Accepted :=
  ⟨TorznabResponder.quiet.registry.indexers, query, format⟩

/-- The search for a text, with the answer in Atom. -/
def asking (text : String) : TorznabRequest :=
  { t := some "search", apikey := some "k", format := some "atom", q := some text }

/-- The feed that it makes at a time. -/
def quietFeed (now : Nat) (selector : String) (query : SearchQuery) (format : FeedFormat) : Feed :=
  ⟨quiet.feedMeta selector (.quiet query format) ⟨now, 0⟩, []⟩

section

variable {c : TorznabCall} {q : SearchQuery} {format : FeedFormat}

theorem searchFor_quiet (s : ResponderState) (now : Nat) (q : SearchQuery) (format : FeedFormat) :
    (quiet.searchFor s now (.quiet q format)).result = .ok ⟨[], [], {}⟩
      ∧ (quiet.searchFor s now (.quiet q format)).elapsed = 0 := by
  have arriving :
      quiet.aggregator.arrivals quiet.registry.indexers now q = [⟨0, .done "a" 0⟩] := by
    simp [SearchAggregator.arrivals, Arrival.interleave, quiet, Script.toIndexer, Script.search,
      Script.timed, Arrival.ofAnswer, Arrival.ofSteps]
  have some_indexers : quiet.registry.indexers.isEmpty = false := rfl
  simp only [searchFor, Accepted.quiet, SearchAggregator.search, some_indexers, arriving]
  constructor <;> simp [SearchAggregator.consume, Collected.collect, quiet]

theorem accepts_quiet (named : quiet.registry.resolve c.selector = .ok quiet.registry.indexers)
    (search : c.request.IsSearch) (key : c.request.apikey = some "k")
    (query : c.request.toQuery = .ok q) (read : c.request.feedFormat = .ok format) :
    quiet.Accepts c.selector c.request (.quiet q format) := by
  have standard : Capabilities.standard.supports q.function := by
    cases q.function <;> rfl
  exact ⟨search, ⟨key, by decide⟩, named, query, ⟨_, List.mem_singleton_self _, standard⟩, read⟩

theorem accepts_asking (text selector : String)
    (named : quiet.registry.resolve selector = .ok quiet.registry.indexers) :
    quiet.Accepts selector (asking text) (.quiet { function := .search, text } .atom) := by
  have function : (asking text).function? = some "search" := rfl
  exact accepts_quiet (c := ⟨0, selector, asking text⟩) named
    ⟨by simp [function], rfl⟩ rfl rfl rfl

variable (accepts : quiet.Accepts c.selector c.request (.quiet q format))

include accepts

theorem stores_quiet {s : ResponderState} (miss : (lookUp s c.time (.quiet q format)).1 = none) :
    quiet.Stores s c (.quiet q format) (quietFeed c.time c.selector q format) := by
  obtain ⟨made, at_once⟩ := searchFor_quiet s c.time q format
  refine ⟨accepts, miss, _, made, ?_⟩
  simp only [feedOf, at_once, Nat.add_zero]
  rfl

theorem finish_quiet (s : ResponderState) : quiet.finish s c = c.time := by
  rw [finish, serve]
  cases accepts.answered s c.time with
  | cached _ _ _ _ elapsed => rw [elapsed, Nat.add_zero]
  | failed _ _ _ _ _ elapsed | searched _ _ _ _ _ elapsed =>
    rw [elapsed, (searchFor_quiet s c.time q format).2, Nat.add_zero]

theorem uses_quiet (s : ResponderState) : quiet.Uses s c (Accepted.quiet q format).key := by
  cases looked : (lookUp s c.time (.quiet q format)).1 with
  | some feed => exact ⟨_, feed, .inl ⟨accepts, looked⟩, rfl⟩
  | none =>
    exact ⟨_, _, .inr ⟨accepts, looked, _, (searchFor_quiet s c.time q format).1, rfl⟩, rfl⟩

/-- The feed of the first request of a run is in the cache for the next with its key. -/
theorem hits_quiet {d : TorznabCall} {q' : SearchQuery} {format' : FeedFormat}
    (accepts' : quiet.Accepts d.selector d.request (.quiet q' format'))
    (same : q'.uniqueKey = q.uniqueKey) (capacity ttl : Nat) (seen : SeenStore)
    (order : c.time ≤ d.time) (young : d.time ≤ c.time + ttl) :
    ∃ feed, quiet.Hits (quiet.run ⟨.new capacity ttl, seen⟩ [c]) d (.quiet q' format') feed := by
  have stored := stores_quiet accepts (s := ⟨.new capacity ttl, seen⟩) rfl
  have key : (Accepted.quiet q' format').key = (Accepted.quiet q format).key := by
    simp only [Accepted.key, cacheKey, same, Accepted.quiet]
  have finished := finish_quiet accepts ⟨.new capacity ttl, seen⟩
  have timely : quiet.Timely ⟨.new capacity ttl, seen⟩ 0 ([] ++ [c]) d.time :=
    ⟨Nat.zero_le _, finished.trans_le order⟩
  have few : (∅ : Finset String).card < max capacity 1 := by simp
  refine ⟨_, stored.hits_later timely trivial (fun _ _ h => h.elim) few ?_ accepts' key⟩
  rw [run_nil, finished]
  exact young

end

/-! ## Where a cached feed comes from -/

theorem Accepts.hasPlainTitle {selector : String} {request : TorznabRequest}
    (accepts : r.Accepts selector request a) : a.query.HasPlainTitle :=
  fun _ title => TorznabRequest.imdbId_of_toQuery accepts.query title

/-- Names without commas are got back from their list. -/
theorem splitOn_names (some_indexers : a.indexers ≠ [])
    (names : ∀ i ∈ a.indexers, ',' ∉ i.name.toList) :
    splitOn ',' (joinTexts "," (a.indexers.map (·.name))).toList
      = (a.indexers.map (·.name)).map String.toList := by
  rw [joinTexts, String.toList_ofList]
  refine splitOn_joinWith (by simpa using some_indexers) ?_
  simpa using names

/-- The key of an accepted request tells the names of its indexers and the key of its query. -/
theorem names_of_key_eq (h : a.key = b.key) (ha : a.indexers ≠ []) (hb : b.indexers ≠ [])
    (plain : ∀ i ∈ a.indexers, ',' ∉ i.name.toList)
    (plain' : ∀ i ∈ b.indexers, ',' ∉ i.name.toList) :
    a.indexers.map (·.name) = b.indexers.map (·.name)
      ∧ a.query.uniqueKey = b.query.uniqueKey := by
  have chars := congrArg String.toList h
  simp only [Accepted.key, cacheKey, String.toList_append] at chars
  have sizes : ("|".toList ++ a.query.uniqueKey.toList).length
      = ("|".toList ++ b.query.uniqueKey.toList).length := by
    simp [SearchQuery.length_uniqueKey]
  rw [List.append_assoc, List.append_assoc] at chars
  obtain ⟨names, query⟩ := List.append_inj' chars sizes
  constructor
  · have pieces := congrArg (splitOn ',') names
    rw [splitOn_names ha plain, splitOn_names hb plain'] at pieces
    exact List.map_injective_iff.2 (fun _ _ same => String.toList_injective same) pieces
  · exact String.toList_injective (List.append_cancel_left query)

/-- A request that is answered with a feed without a search gets the feed that was the last to be
stored under its key, by an earlier request. The two resolved to the same names, and they ask for
the same search, provided that the hash tells the texts under their keys apart, and that their
seasons have the same number of line feeds, and their episodes too: a season or an episode is
written into that text as it is, and a line feed in it can be taken for the end of its line. -/
theorem cached_feed_origin (r : TorznabResponder)
    (plain : ∀ i ∈ r.registry.indexers, ',' ∉ i.name.toList) (capacity ttl : Nat)
    (seen : SeenStore) (calls : List TorznabCall) (call : TorznabCall) (e : EncodedFeed)
    (answer : (r.serve (r.run ⟨.new capacity ttl, seen⟩ calls) call).outcome = .feed e)
    (no_search : (r.serve (r.run ⟨.new capacity ttl, seen⟩ calls) call).searches = []) :
    ∃ a feed before storer since b,
      r.Hits (r.run ⟨.new capacity ttl, seen⟩ calls) call a feed
      ∧ encoded a feed = .feed e
      ∧ calls = before ++ storer :: since
      ∧ r.Stores (r.run ⟨.new capacity ttl, seen⟩ before) storer b feed
      ∧ r.NeverStores a.key (r.serve (r.run ⟨.new capacity ttl, seen⟩ before) storer).state since
      ∧ a.indexers.map (·.name) = b.indexers.map (·.name)
      ∧ (a.query.HashedApart b.query →
        (a.query.season.getD "").toList.count '\n' = (b.query.season.getD "").toList.count '\n' →
        (a.query.episode.getD "").toList.count '\n' = (b.query.episode.getD "").toList.count '\n' →
        a.query.SameSearch b.query) := by
  obtain ⟨a, feed, hits, served⟩ := hits_of_searches_eq_nil answer no_search
  obtain ⟨held, -⟩ | ⟨before, storer, since, b, split, stored, same, kept⟩ :=
    holds_run (TtlCache.holds_of_get hits.hit)
  · exact absurd held (TtlCache.not_holds_new capacity ttl)
  · obtain ⟨ha, in_registry⟩ := Registry.mem_of_resolve hits.accepts.named
    obtain ⟨hb, in_registry'⟩ := Registry.mem_of_resolve stored.accepts.named
    obtain ⟨names, query⟩ := names_of_key_eq same.symm ha hb
      (fun i hi => plain i (in_registry i hi)) (fun i hi => plain i (in_registry' i hi))
    refine ⟨a, feed, before, storer, since, b, hits, served.symm.trans answer, split, stored, kept,
      names, ?_⟩
    intro apart season episode
    exact SearchQuery.sameSearch_of_canonicalText_eq hits.accepts.hasPlainTitle
      stored.accepts.hasPlainTitle (apart (SearchQuery.digest_eq_of_uniqueKey_eq query)) season
      episode

/-- A search that is asked for twice, spelled in two ways. -/
theorem cached_feed_origin_spelled :
    let first : TorznabCall := ⟨0, "a", asking " Some Movie"⟩
    let again : TorznabCall := ⟨5, "A", asking "some movie "⟩
    ∃ a b, quiet.Accepts again.selector again.request a
      ∧ quiet.Accepts first.selector first.request b
      ∧ (quiet.serve (quiet.run ⟨.new 2 10, .new 2 10⟩ [first]) again).searches = []
      ∧ a.query ≠ b.query ∧ a.query.SameSearch b.query := by
  intro first again
  have accepts := accepts_asking " Some Movie" "a" rfl
  have accepts' := accepts_asking "some movie " "A" rfl
  have texts : SearchQuery.canonicalText { function := .search, text := "some movie " }
      = SearchQuery.canonicalText { function := .search, text := " Some Movie" } := by
    decide +kernel
  obtain ⟨feed, hits⟩ := hits_quiet (c := first) (d := again) accepts accepts'
    (SearchQuery.uniqueKey_congr texts) 2 10 (.new 2 10) (by decide) (by decide)
  obtain ⟨no_search, -, answer⟩ := hits.answer
  obtain ⟨a, feed', before, storer, since, b, hits', -, split, stored, -, -, same⟩ :=
    cached_feed_origin quiet (by decide) 2 10 (.new 2 10) [first] again _ (answer.trans rfl)
      no_search
  obtain ⟨rfl, rfl, rfl⟩ : before = [] ∧ first = storer ∧ since = [] := by
    cases before with
    | nil => exact ⟨rfl, by simpa using split⟩
    | cons c rest => simp at split
  obtain rfl := accepts'.unique hits'.accepts
  obtain rfl := accepts.unique stored.accepts
  exact ⟨_, _, accepts', accepts, no_search, by decide, same (fun _ => texts) rfl rfl⟩

/-- The feed for season `1` and episode `2`, line feed, `ep=3` is the one that was made for season
`1`, line feed, `ep=2` and episode `3`. -/
theorem cached_feed_of_other_season :
    let first : TorznabCall := ⟨0, "a",
      { asking "" with t := some "tvsearch", season := some "1\nep=2", ep := some "3" }⟩
    let second : TorznabCall := ⟨5, "a",
      { asking "" with t := some "tvsearch", season := some "1", ep := some "2\nep=3" }⟩
    let step := quiet.serve (quiet.run ⟨.new 2 10, .new 2 10⟩ [first]) second
    (∀ i ∈ quiet.registry.indexers, ',' ∉ i.name.toList)
    ∧ (∃ e, step.outcome = .feed e) ∧ step.searches = []
    ∧ ∃ a b, quiet.Accepts second.selector second.request a
      ∧ quiet.Accepts first.selector first.request b
      ∧ a.query.HashedApart b.query ∧ ¬a.query.SameSearch b.query := by
  intro first second step
  let q : SearchQuery := { function := .tvSearch, season := some "1\nep=2", episode := some "3" }
  let q' : SearchQuery := { function := .tvSearch, season := some "1", episode := some "2\nep=3" }
  have named : quiet.registry.resolve "a" = .ok quiet.registry.indexers := rfl
  have accepts : quiet.Accepts first.selector first.request (.quiet q .atom) :=
    accepts_quiet named ⟨by decide, by decide⟩ rfl rfl rfl
  have accepts' : quiet.Accepts second.selector second.request (.quiet q' .atom) :=
    accepts_quiet named ⟨by decide, by decide⟩ rfl rfl rfl
  have texts : q'.canonicalText = q.canonicalText := by decide +kernel
  obtain ⟨feed, hits⟩ := hits_quiet accepts accepts' (SearchQuery.uniqueKey_congr texts) 2 10
    (.new 2 10) (by decide) (by decide)
  obtain ⟨no_search, -, answer⟩ := hits.answer
  refine ⟨by decide, ⟨_, answer.trans rfl⟩, no_search, _, _, accepts', accepts, fun _ => texts, ?_⟩
  intro same
  exact absurd same.season (by decide)

/-! ## The same feed again -/

/-- A feed that a search made and stored is served again to every later request that resolves to
indexers of the same names and has a query with the same key, while it is young enough, no other
feed was stored under its key, and fewer other keys than the capacity were used since its own was:
no search is started, the sightings are left alone, and the answer is the encoding of that very
feed, so the answer of the first request if the formats agree. -/
theorem feed_again (r : TorznabResponder) (capacity ttl start : Nat) (seen : SeenStore)
    (before between : List TorznabCall) (first later : TorznabCall) (a b : Accepted) (feed : Feed)
    (used : Finset String)
    (timely : r.Timely ⟨.new capacity ttl, seen⟩ start (before ++ first :: between) later.time)
    (stored : r.Stores (r.run ⟨.new capacity ttl, seen⟩ before) first a feed)
    (accepts : r.Accepts later.selector later.request b)
    (names : b.indexers.map (·.name) = a.indexers.map (·.name))
    (query : b.query.uniqueKey = a.query.uniqueKey)
    (kept : r.NeverStores a.key (r.serve (r.run ⟨.new capacity ttl, seen⟩ before) first).state
      between)
    (others : ∀ k, k ≠ a.key → r.UsedSince a.key k
      (r.serve (r.run ⟨.new capacity ttl, seen⟩ before) first).state between → k ∈ used)
    (few : used.card < max capacity 1)
    (young : later.time ≤ r.finish (r.run ⟨.new capacity ttl, seen⟩ before) first + ttl) :
    let s := r.run ⟨.new capacity ttl, seen⟩ (before ++ first :: between)
    let step := r.serve s later
    step.searches = [] ∧ step.state.seen = s.seen ∧ step.outcome = encoded b feed
      ∧ (b.format = a.format →
        step.outcome = (r.serve (r.run ⟨.new capacity ttl, seen⟩ before) first).outcome) := by
  intro s step
  have same : b.key = a.key := by rw [Accepted.key, cacheKey, names, query]; rfl
  have hits : r.Hits s later b feed :=
    stored.hits_later timely kept others few young accepts same
  obtain ⟨no_search, untouched, answer⟩ := hits.answer
  refine ⟨no_search, untouched, answer, ?_⟩
  intro format
  rw [stored.answer, encoded, ← format]
  exact answer

/-- A search that is asked for again, after a request for the capabilities. -/
theorem feed_again_asked :
    let start : ResponderState := ⟨.new 1 10, .new 1 10⟩
    let first : TorznabCall := ⟨0, "a", asking "x"⟩
    let caps : TorznabCall := ⟨3, "a", { t := some "caps" }⟩
    let later : TorznabCall := ⟨10, "A", asking "x"⟩
    (quiet.serve (quiet.run start [first, caps]) later).searches = []
      ∧ (quiet.serve (quiet.run start [first, caps]) later).outcome
        = (quiet.serve start first).outcome := by
  intro start first caps later
  have accepts := accepts_asking "x" "a" rfl
  have accepts' := accepts_asking "x" "A" rfl
  have refused (a : Accepted) : ¬quiet.Accepts caps.selector caps.request a := by
    intro accepts
    exact absurd accepts.search.2 (by decide)
  have stored := stores_quiet (c := first) accepts (s := start) rfl
  have finished := finish_quiet (c := first) accepts start
  have timely : quiet.Timely start 0 [first, caps] later.time := by
    refine ⟨Nat.zero_le _, finished.trans_le (by decide), ?_⟩
    exact (by decide : 3 ≤ 10)
  have kept (key : String) (s : ResponderState) : quiet.NeverStores key s [caps] :=
    ⟨fun a _ stores => absurd stores.accepts (refused a), trivial⟩
  have others (key k : String) (s : ResponderState) : ¬quiet.UsedSince key k s [caps] := by
    rintro (⟨use, -⟩ | none)
    · exact not_uses_of_refused refused s k use
    · exact none
  obtain ⟨no_search, -, -, same⟩ := feed_again quiet 1 10 0 (.new 1 10) [] [caps] first later _ _
    _ ∅ timely stored accepts' rfl rfl (kept _ _) (fun k _ since => absurd since (others _ k _))
    (by decide) (Nat.le_add_left 10 _)
  exact ⟨no_search, same rfl⟩

/-- A feed that is evicted is made anew. The last request comes within the time to live of the
first, and after the last use of their key no other key is used, but the request before it has
stored another feed. -/
theorem feed_made_anew :
    let start : ResponderState := ⟨.new 1 60000, .new 1 60000⟩
    let first : TorznabCall := ⟨0, "a", asking "x"⟩
    let other : TorznabCall := ⟨1, "a", asking "y"⟩
    let again : TorznabCall := ⟨2, "a", asking "x"⟩
    let later : TorznabCall := ⟨3, "a", asking "x"⟩
    ∃ a feed, quiet.Stores start first a feed
      ∧ quiet.Timely start 0 [first, other, again] later.time
      ∧ quiet.Accepts later.selector later.request a
      ∧ (∀ k, k ≠ a.key →
        ¬quiet.UsedSince a.key k (quiet.serve start first).state [other, again])
      ∧ later.time ≤ quiet.finish start first + 60000
      ∧ (quiet.serve (quiet.run start [first, other, again]) later).outcome
        ≠ (quiet.serve start first).outcome := by
  intro start first other again later
  let q : SearchQuery := { function := .search, text := "x" }
  have accepts : quiet.Accepts "a" (asking "x") (.quiet q .atom) := accepts_asking "x" "a" rfl
  have accepts' := accepts_asking "y" "a" rfl
  have stored := stores_quiet (c := first) accepts (s := start) rfl
  have timely : quiet.Timely start 0 ([first, other] ++ [again]) later.time := by
    refine ⟨Nat.zero_le _, ?_, ?_, ?_⟩
    · rw [finish_quiet (c := first) accepts]
      decide
    · rw [finish_quiet (c := other) accepts']
      decide
    · rw [finish_quiet (c := again) accepts]
      exact (by decide : 2 ≤ 3)
  have differ : (quiet.serve (quiet.run start ([first, other] ++ [again])) later).outcome
      ≠ (quiet.serve start first).outcome := by
    have miss : (lookUp (quiet.run start [first, other]) 2 (.quiet q .atom)).1 = none := by
      decide +kernel
    have young : later.time ≤ quiet.finish (quiet.run start [first, other]) again + 60000 := by
      rw [finish_quiet (c := again) accepts]
      decide
    have hits := (stores_quiet (c := again) accepts miss).hits_later timely trivial
      (fun _ _ since => since.elim) (by decide : (∅ : Finset String).card < 1) young accepts rfl
    rw [stored.answer, hits.answer.2.2]
    intro same
    have documents := String.ofList_injective
      (congrArg EncodedFeed.body (TorznabOutcome.feed.inj same))
    exact absurd documents (by decide +kernel)
  refine ⟨_, _, stored, timely, accepts, ?_, ?_, differ⟩
  · rintro k other_key (⟨-, unused, -⟩ | ⟨use, -⟩ | none)
    · exact unused (uses_quiet (c := again) accepts _)
    · exact other_key (use.eq_key accepts).symm
    · exact none
  · exact (by decide : 3 ≤ 60000).trans (Nat.le_add_left 60000 _)

end TorznabGateway.TorznabResponder
