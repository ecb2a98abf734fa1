import TorznabGateway.Digest.Sha256
import TorznabGateway.Search.Item
import TorznabGateway.Text.Lowercase
import TorznabGateway.Text.Split

/-!
# Search queries

The parameters of a search in their normal form, the free text and the episode marker that text-only
indexers get, the bounds that items must meet, and the key under which answers are cached. Queries
that differ only in the order and repetition of categories, in blanks around the text, or in its
letter case share a key.
-/
namespace TorznabGateway

open Text Time

/-- A search function of the Torznab protocol. -/
inductive SearchFunction where
  | search
  | tvSearch
  | movie
  | music
  | book
  deriving DecidableEq, Repr, Inhabited

namespace SearchFunction

/-- All functions, in the order in which they are listed. -/
def all : List SearchFunction :=
  [.search, .tvSearch, .movie, .music, .book]

theorem mem_all (f : SearchFunction) : f ∈ all := by
  cases f <;> decide

/-- The name of a function in requests and feeds. -/
def name : SearchFunction → String
  | .search => "search"
  | .tvSearch => "tvsearch"
  | .movie => "movie"
  | .music => "music"
  | .book => "book"

/-- The name of a function's element in a capabilities document. -/
def capsElement : SearchFunction → String
  | .search => "search"
  | .tvSearch => "tv-search"
  | .movie => "movie-search"
  | .music => "music-search"
  | .book => "book-search"

/-- The place of a function in `all`. -/
def position : SearchFunction → Nat
  | .search => 0
  | .tvSearch => 1
  | .movie => 2
  | .music => 3
  | .book => 4

/-- Read either name of a function, in any ASCII case. -/
def parse? (s : String) : Option SearchFunction :=
  let s := asciiLower s
  all.find? fun f => s == f.name || s == f.capsElement

/-- What is said of a name that is no function. -/
def unknownMessage (s : String) : String :=
  "unknown search function '" ++ asciiLower s ++ "'"

/-- Read the lower-case name of a function. -/
def ofJson? (v : Json) : Option SearchFunction :=
  (Json.variantName? Json.isNull v).bind fun s => all.find? (·.name == s)

end SearchFunction

/-- The parameters of a search. -/
structure SearchQuery where
  function : SearchFunction
  text : String := ""
  categories : List Nat := []
  imdbId : Option String := none
  tmdbId : Option Nat := none
  tvdbId : Option Nat := none
  season : Option String := none
  episode : Option String := none
  limit : Option Nat := none
  offset : Nat := 0
  /-- Pages taken from each indexer, if not as many as configured. -/
  maxPages : Option Nat := none
  minSize : Option Nat := none
  maxSize : Option Nat := none
  maxAgeDays : Option Nat := none
  deriving DecidableEq, Repr, Inhabited

namespace SearchQuery

/-- Results given to callers who name no limit. -/
def defaultLimit : Nat := 100

/-- The most results a caller can ask for. -/
def maxLimit : Nat := 1000

/-- The number of results to give. -/
def effectiveLimit (q : SearchQuery) : Nat :=
  min (q.limit.getD defaultLimit) maxLimit

/-! ## The text for text-only indexers -/

/-- A season or episode as a number, if it is one. -/
def ordinal? (s : String) : Option Nat :=
  Decimal.readUpTo? Decimal.max32 s.toList

/-- A number in at least two digits behind a letter. -/
def marked (letter : Char) (n : Nat) : List Char :=
  letter :: Decimal.padded 2 n

/-- How season and episode are named in a text: `S01E02` if they are numbers. -/
def episodeMarker? (season episode : Option String) : Option (List Char) :=
  match season, episode with
  | some s, some e =>
    match ordinal? s, ordinal? e with
    | some m, some n => some (marked 'S' m ++ marked 'E' n)
    | _, _ => some (s.toList ++ ' ' :: e.toList)
  | some s, none =>
    match ordinal? s with
    | some m => some (marked 'S' m)
    | none => some s.toList
  | none, _ => none

/-- The free text, with the episode marker of a series search behind it. -/
def searchText (q : SearchQuery) : String :=
  let text := trimChars q.text.toList
  let marker := if q.function = .tvSearch then episodeMarker? q.season q.episode else none
  match marker with
  | some m => .ofList (if text.isEmpty then m else text ++ ' ' :: m)
  | none => .ofList text

/-! ## The cache key -/

/-- A numeral, or nothing. -/
def optionDigits (n : Option Nat) : List Char :=
  (n.map Decimal.digits).getD []

/-- Drop every copy of `tt` in front. -/
def dropTitleMarks : List Char → List Char
  | 't' :: 't' :: rest => dropTitleMarks rest
  | cs => cs

/-- Insert a number into an ascending list without repetitions. -/
def insertCategory (n : Nat) : List Nat → List Nat
  | [] => [n]
  | m :: ms => if n < m then n :: m :: ms else if n = m then m :: ms else m :: insertCategory n ms

/-- The categories in ascending order, each once. -/
def categorySet (categories : List Nat) : List Nat :=
  categories.foldr insertCategory []

/-- The lines that the key is made of. -/
def canonicalLines (q : SearchQuery) : List (List Char) :=
  ["t=".toList ++ q.function.name.toList,
   "q=".toList ++ (lowercase (trim q.text)).toList,
   "cat=".toList ++ joinWith [','] ((categorySet q.categories).map Decimal.digits),
   "imdb=".toList ++ dropTitleMarks (q.imdbId.getD "").toList,
   "tmdb=".toList ++ optionDigits q.tmdbId,
   "tvdb=".toList ++ optionDigits q.tvdbId,
   "season=".toList ++ (q.season.getD "").toList,
   "ep=".toList ++ (q.episode.getD "").toList,
   "limit=".toList ++ Decimal.digits q.effectiveLimit,
   "offset=".toList ++ Decimal.digits q.offset,
   "pages=".toList ++ optionDigits q.maxPages,
   "minsize=".toList ++ optionDigits q.minSize,
   "maxsize=".toList ++ optionDigits q.maxSize,
   "maxage=".toList ++ optionDigits q.maxAgeDays]

/-- The text under the key. -/
def canonicalText (q : SearchQuery) : List Char :=
  joinWith ['\n'] q.canonicalLines

/-- The key under which the answer to a query is cached. -/
def uniqueKey (q : SearchQuery) : String :=
  Hex.encode (Digest.Sha256.digest (Utf8.encodeChars q.canonicalText))

/-! ## Bounds on items -/

/-- A day in nanoseconds. -/
def nanosPerDay : Nat := 86400 * 1000000000

/-- Whether an item meets the bounds on size and age. Undated items are of any age. -/
def accepts (q : SearchQuery) (now : Moment) (i : Item) : Bool :=
  (match q.minSize with
    | some least => least ≤ i.size
    | none => true)
  && (match q.maxSize with
    | some most => i.size ≤ most
    | none => true)
  && (match q.maxAgeDays, i.publishDate with
    | some days, some published => now.nanosSince published ≤ (days * nanosPerDay : Nat)
    | _, _ => true)

/-! ## As JSON -/

/-- The fields in the order in which they are written. -/
def fieldNames : List String :=
  ["query_type", "text", "categories", "imdb_id", "tmdb_id", "tvdb_id", "season", "episode",
    "limit", "offset", "max_pages", "min_size", "max_size", "max_age_days"]

/-- Read a query. -/
def ofJson? (v : Json) : Option SearchQuery := do
  let u32 : Json → Option Nat := Json.toNatUpTo? Decimal.max32
  let u64 : Json → Option Nat := Json.toNatUpTo? Decimal.max64
  let r ← Json.Record.ofJson? .refused fieldNames v
  let function ← r.required "query_type" SearchFunction.ofJson?
  let text ← r.withDefault "text" Json.toText? ""
  let categories ← r.withDefault "categories" (Json.readList? u32) []
  let imdbId ← r.optionalOrCut "imdb_id" Json.toText?
  let tmdbId ← r.optionalOrCut "tmdb_id" u64
  let tvdbId ← r.optionalOrCut "tvdb_id" u64
  let season ← r.optionalOrCut "season" Json.toText?
  let episode ← r.optionalOrCut "episode" Json.toText?
  let limit ← r.optionalOrCut "limit" u32
  let offset ← r.withDefault "offset" u32 0
  let maxPages ← r.optionalOrCut "max_pages" u32
  let minSize ← r.optionalOrCut "min_size" u64
  let maxSize ← r.optionalOrCut "max_size" u64
  let maxAgeDays ← r.optionalOrCut "max_age_days" u32
  return { function, text, categories, imdbId, tmdbId, tvdbId, season, episode, limit, offset,
           maxPages, minSize, maxSize, maxAgeDays }

/-- A query as an object; options that are absent are left out. -/
def toJson (q : SearchQuery) : Json :=
  .object
    ([("query_type", .text q.function.name), ("text", .text q.text),
      ("categories", .array (q.categories.map Json.ofNat))]
    ++ Json.optionMember "imdb_id" (q.imdbId.map .text)
    ++ Json.optionMember "tmdb_id" (q.tmdbId.map Json.ofNat)
    ++ Json.optionMember "tvdb_id" (q.tvdbId.map Json.ofNat)
    ++ Json.optionMember "season" (q.season.map .text)
    ++ Json.optionMember "episode" (q.episode.map .text)
    ++ Json.optionMember "limit" (q.limit.map Json.ofNat)
    ++ [("offset", Json.ofNat q.offset)]
    ++ Json.optionMember "max_pages" (q.maxPages.map Json.ofNat)
    ++ Json.optionMember "min_size" (q.minSize.map Json.ofNat)
    ++ Json.optionMember "max_size" (q.maxSize.map Json.ofNat)
    ++ Json.optionMember "max_age_days" (q.maxAgeDays.map Json.ofNat))

end SearchQuery

end TorznabGateway
