import TorznabGateway.Json.Record
import TorznabGateway.Search.Query
import TorznabGateway.Torznab.Error

/-!
# Torznab requests

The parameters of a request as they were received, and the query they ask for. A parameter that is
blank counts as absent. A number that does not parse or does not fit is refused, never ignored.
-/
namespace TorznabGateway

open Text

/-- The encodings of a feed. -/
inductive FeedFormat where
  | xml
  | atom
  | json
  deriving DecidableEq, Repr

/-- What is wrong with a request's parameters. -/
inductive RequestFault where
  | missingFunction
  | unknownFunction (name : String)
  /-- A parameter that should be a number. -/
  | notANumber (parameter value : String)
  | noPages
  | unknownFormat (name : String)
  deriving DecidableEq, Repr

def RequestFault.message : RequestFault → String
  | .missingFunction => "missing t"
  | .unknownFunction name => SearchFunction.unknownMessage name
  | .notANumber parameter value => parameter ++ "='" ++ value ++ "'"
  | .noPages => "pages must be positive"
  | .unknownFormat name => "format '" ++ asciiLower name ++ "'"

/-- The answer to a request with a faulty parameter. -/
def RequestFault.error (f : RequestFault) : TorznabError :=
  .incorrectParameter f.message

namespace FeedFormat

/-- The name of a format. -/
def name : FeedFormat → String
  | .xml => "xml"
  | .atom => "atom"
  | .json => "json"

/-- Read a format parameter; XML is the default. -/
def ofParameter (value : Option String) : Except RequestFault FeedFormat :=
  match value.bind nonBlank? with
  | none => .ok .xml
  | some given =>
    let s := asciiLower given
    if s = "xml" ∨ s = "rss" then .ok .xml
    else if s = "atom" then .ok .atom
    else if s = "json" then .ok .json
    else .error (.unknownFormat given)

end FeedFormat

/-- The parameters of a request. -/
structure TorznabRequest where
  t : Option String := none
  q : Option String := none
  apikey : Option String := none
  cat : Option String := none
  limit : Option String := none
  offset : Option String := none
  season : Option String := none
  ep : Option String := none
  imdbid : Option String := none
  tmdbid : Option String := none
  tvdbid : Option String := none
  minsize : Option String := none
  maxsize : Option String := none
  maxage : Option String := none
  format : Option String := none
  pages : Option String := none
  deriving DecidableEq, Repr, Inhabited

namespace TorznabRequest

/-- The function asked for, unless it is blank. -/
def function? (r : TorznabRequest) : Option String :=
  r.t.bind nonBlank?

/-- Whether the capabilities are asked for. -/
def isCaps (r : TorznabRequest) : Bool :=
  match r.function? with
  | some f => eqIgnoreAsciiCase f "caps"
  | none => false

/-- The encoding asked for. -/
def feedFormat (r : TorznabRequest) : Except RequestFault FeedFormat :=
  FeedFormat.ofParameter r.format

/-! ## The query -/

/-- Read a number up to a limit. -/
def readNumber (parameter : String) (limit : Nat) (value : String) : Except RequestFault Nat :=
  match Decimal.readUpTo? limit value.toList with
  | some n => .ok n
  | none => .error (.notANumber parameter value)

/-- Read a number, unless the parameter is absent or blank. -/
def readOptional (parameter : String) (limit : Nat) (value : Option String) :
    Except RequestFault (Option Nat) :=
  match value.bind nonBlank? with
  | none => .ok none
  | some v => (readNumber parameter limit v).map some

/-- Read a list of category numbers. -/
def readCategories (value : Option String) : Except RequestFault (List Nat) :=
  match value.bind nonBlank? with
  | none => .ok []
  | some v => (commaParts v).mapM (readNumber "cat" Decimal.max32)

/-- An identifier's digits, without the `tt` in front. -/
def imdbDigits (id : String) : String :=
  match id.toList with
  | 't' :: 't' :: rest => .ofList rest
  | _ => id

/-- The written form of a title number: `tt` and at least seven digits. -/
def imdbText (n : Nat) : String :=
  .ofList ('t' :: 't' :: Decimal.padded 7 n)

/-- Read a title number with or without `tt`. -/
def readImdbId (value : Option String) : Except RequestFault (Option String) :=
  match value.bind nonBlank? with
  | none => .ok none
  | some v => (readNumber "imdbid" Decimal.max64 (imdbDigits v)).map fun n => some (imdbText n)

/-- The query that the parameters ask for. -/
def toQuery (r : TorznabRequest) : Except RequestFault SearchQuery := do
  let name ← match r.function? with
    | some f => .ok f
    | none => .error .missingFunction
  let function ← match SearchFunction.parse? name with
    | some f => .ok f
    | none => .error (.unknownFunction name)
  let categories ← readCategories r.cat
  let limit ← readOptional "limit" Decimal.max32 r.limit
  let offset ← readOptional "offset" Decimal.max32 r.offset
  let maxPages ← readOptional "pages" Decimal.max32 r.pages
  if maxPages = some 0 then .error .noPages
  let imdbId ← readImdbId r.imdbid
  let tmdbId ← readOptional "tmdbid" Decimal.max64 r.tmdbid
  let tvdbId ← readOptional "tvdbid" Decimal.max64 r.tvdbid
  let minSize ← readOptional "minsize" Decimal.max64 r.minsize
  let maxSize ← readOptional "maxsize" Decimal.max64 r.maxsize
  let maxAgeDays ← readOptional "maxage" Decimal.max32 r.maxage
  return { function, text := r.q.getD "", categories, imdbId, tmdbId, tvdbId
           season := r.season.bind nonBlank?, episode := r.ep.bind nonBlank?
           limit, offset := offset.getD 0, maxPages, minSize, maxSize, maxAgeDays }

/-! ## As JSON -/

/-- The parameters in the order in which a list gives them. -/
def fieldNames : List String :=
  ["t", "q", "apikey", "cat", "limit", "offset", "season", "ep", "imdbid", "tmdbid", "tvdbid",
    "minsize", "maxsize", "maxage", "format", "pages"]

/-- A request whose parameters are given by their names. -/
def ofLookup {m : Type → Type} [Monad m] (get : String → m (Option String)) :
    m TorznabRequest := do
  let t ← get "t"
  let q ← get "q"
  let apikey ← get "apikey"
  let cat ← get "cat"
  let limit ← get "limit"
  let offset ← get "offset"
  let season ← get "season"
  let ep ← get "ep"
  let imdbid ← get "imdbid"
  let tmdbid ← get "tmdbid"
  let tvdbid ← get "tvdbid"
  let minsize ← get "minsize"
  let maxsize ← get "maxsize"
  let maxage ← get "maxage"
  let format ← get "format"
  let pages ← get "pages"
  return { t, q, apikey, cat, limit, offset, season, ep, imdbid, tmdbid, tvdbid, minsize, maxsize,
           maxage, format, pages }

/-- Read a request. -/
def ofJson? (v : Json) : Option TorznabRequest := do
  let r ← Json.Record.ofJson? .refused fieldNames v
  ofLookup fun name => r.optional name Json.toText?

/-- A query in which a known parameter is repeated. -/
structure RepeatedParameter where
  name : String
  deriving DecidableEq, Repr

/-- The first known parameter that is given a second time. -/
def repeated? (seen : List String) : List (String × String) → Option RepeatedParameter
  | [] => none
  | (name, _) :: rest =>
    if fieldNames.contains name then
      if seen.contains name then some ⟨name⟩ else repeated? (name :: seen) rest
    else repeated? seen rest

/-- Read a request from the pairs of a URL's query. Unknown names are ignored. -/
def ofPairs (pairs : List (String × String)) : Except RepeatedParameter TorznabRequest :=
  match repeated? [] pairs with
  | some fault => .error fault
  | none => .ok (Id.run (ofLookup fun name => (Json.lookup? name pairs)))

end TorznabRequest

end TorznabGateway
