import TorznabGateway.Auth.ApiKey
import TorznabGateway.Indexer.Registry
import TorznabGateway.Search.Aggregate
import TorznabGateway.Torznab.CapsDocument
import TorznabGateway.Torznab.FeedDocument

/-!
# Answering Torznab requests

A request without a function is sent on to the capabilities; the capabilities need no key. Anything
else needs the key, indexers, a query that parses, a mode that one of the indexers offers, and a
known format, in this order. Only then the feed cache is looked at, and only on a miss the indexers
are searched.
-/
namespace TorznabGateway

open Text Time

/-- What a request is answered with. -/
inductive TorznabOutcome where
  /-- Look at this location. -/
  | redirect (location : String)
  /-- The capabilities document. -/
  | caps (xml : String)
  | feed (encoded : EncodedFeed)
  | error (e : TorznabError)
  /-- The feed holds a date without a written form, and the request gets no answer. -/
  | unanswered
  deriving DecidableEq, Repr

/-- The parts of the gateway that answer Torznab requests, as they are configured. -/
structure TorznabResponder where
  registry : Registry
  secret : SharedSecret
  aggregator : SearchAggregator
  /-- The public URL without slashes at its end. -/
  publicUrl : String
  /-- The date at a time in milliseconds. -/
  wall : Nat → Moment

/-- What changes while requests are answered. -/
structure ResponderState where
  feeds : TtlCache String Feed
  seen : SeenStore
  deriving Repr

/-- An answer, the state after it, and what was done for it. -/
structure ResponderStep where
  outcome : TorznabOutcome
  state : ResponderState
  /-- The time that the answer took. -/
  elapsed : Nat := 0
  /-- The indexers whose search was started, with the query they were given. -/
  searches : List (String × SearchQuery) := []
  observed : List Observation := []

namespace TorznabResponder

/-- The name of the gateway in titles. -/
def gatewayName : String := "nabgate"

/-- The title for a set of indexers. -/
def title (indexers : List Indexer) : String :=
  gatewayName ++ ": " ++ joinTexts ", " (indexers.map (·.name))

/-- The capabilities of a set of indexers together. -/
def mergedCaps (indexers : List Indexer) : Capabilities :=
  .merge (indexers.map (·.capabilities))

/-- The indexers that a selector names. -/
def resolve (r : TorznabResponder) (selector : String) : Except TorznabError (List Indexer) :=
  match r.registry.resolve selector with
  | .ok indexers => .ok indexers
  | .error e => .error (.incorrectParameter e.message)

/-- The capabilities of the indexers that a selector names. -/
def caps (r : TorznabResponder) (selector : String) : TorznabOutcome :=
  match r.resolve selector with
  | .ok indexers => .caps (CapsDocument.render (title indexers) (mergedCaps indexers))
  | .error e => .error e

/-- Where the capabilities of a selector are found. -/
def capsLocation (selector : String) : String :=
  "/torznab/caps/" ++ Encoding.Percent.encode selector

/-- The key under which the feed for a query to some indexers is cached. -/
def cacheKey (indexers : List Indexer) (q : SearchQuery) : String :=
  joinTexts "," (indexers.map (·.name)) ++ "|" ++ q.uniqueKey

/-- A search request that passed all checks. -/
structure Accepted where
  indexers : List Indexer
  query : SearchQuery
  format : FeedFormat

/-- Check a search request whose key was accepted. -/
def accept (r : TorznabResponder) (selector : String) (request : TorznabRequest) :
    Except TorznabError Accepted := do
  let indexers ← r.resolve selector
  let query ← request.toQuery.mapError RequestFault.error
  if !(mergedCaps indexers).supports query.function then
    .error (.functionNotAvailable query.function.name)
  let format ← request.feedFormat.mapError RequestFault.error
  return { indexers, query, format }

/-- What the feed for a request says about itself. -/
def feedMeta (r : TorznabResponder) (selector : String) (a : Accepted) (built : Moment) :
    FeedMeta :=
  let link := r.publicUrl ++ "/torznab/" ++ Encoding.Percent.encode selector
  { id := link, title := title a.indexers, link, language := "en-US"
    category := a.query.function.name, updated := built }

/-- A feed in the format of a request. -/
def encoded (a : Accepted) (f : Feed) : TorznabOutcome :=
  match f.encode? a.format with
  | some e => .feed e
  | none => .unanswered

/-- Answer an accepted request from the cache, or by a search. -/
def answer (r : TorznabResponder) (s : ResponderState) (now : Nat) (selector : String)
    (a : Accepted) : ResponderStep :=
  let key := cacheKey a.indexers a.query
  let (cached, feeds) := s.feeds.get now key
  match cached with
  | some feed => { outcome := encoded a feed, state := { s with feeds } }
  | none =>
    let o := r.aggregator.search r.wall a.indexers now a.query s.seen
    let searches := a.indexers.map fun i => (i.name, a.query)
    match o.result with
    | .error e =>
      { outcome := .error (.unknown e.message), state := { feeds, seen := o.seen }
        elapsed := o.elapsed, searches, observed := o.observed }
    | .ok result =>
      let finished := now + o.elapsed
      let feed : Feed :=
        { about := r.feedMeta selector a (r.wall finished), items := result.items.map .tracked }
      { outcome := encoded a feed
        state := { feeds := feeds.add finished key feed, seen := o.seen }
        elapsed := o.elapsed, searches, observed := o.observed }

/-- Answer a request at time `now`. -/
def respond (r : TorznabResponder) (s : ResponderState) (now : Nat) (selector : String)
    (request : TorznabRequest) : ResponderStep :=
  if request.function?.isNone then { outcome := .redirect (capsLocation selector), state := s }
  else if request.isCaps then { outcome := r.caps selector, state := s }
  else
    let (authenticated, observed) := Auth.authenticate r.secret request.apikey
    match authenticated with
    | .error _ => { outcome := .error .insufficientPrivileges, state := s, observed }
    | .ok () =>
      match r.accept selector request with
      | .error e => { outcome := .error e, state := s, observed }
      | .ok a =>
        let step := r.answer s now selector a
        { step with observed := observed ++ step.observed }

end TorznabResponder

end TorznabGateway
