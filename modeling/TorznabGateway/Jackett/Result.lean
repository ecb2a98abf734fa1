import TorznabGateway.Jackett.Link

/-!
# Results of a Jackett server

The document with which Jackett answers a search, and the items that its results stand for. A result
without any link is none. Numbers that make no sense count as zero or absent.
-/
namespace TorznabGateway.Jackett

open Text Time

/-- A result as Jackett gives it. -/
structure Result where
  title : String
  guid : Option String := none
  link : Option String := none
  magnetUri : Option String := none
  infoHash : Option String := none
  details : Option String := none
  size : Option Int := none
  seeders : Option Int := none
  /-- Seeders and leechers together. -/
  peers : Option Int := none
  categories : List Int := []
  publishDate : Option String := none
  imdb : Option Int := none
  tmdb : Option Int := none
  deriving DecidableEq, Repr

namespace Result

/-! ## Reading -/

/-- Integers with a sign of 32 and 64 bits. -/
def i32 : Json → Option Int := Json.toIntBetween? (-0x80000000) 0x7FFFFFFF

@[inherit_doc i32]
def i64 : Json → Option Int := Json.toIntBetween? (-0x8000000000000000) 0x7FFFFFFFFFFFFFFF

/-- The fields in the order in which a list gives them. -/
def fieldNames : List String :=
  ["Title", "Guid", "Link", "MagnetUri", "InfoHash", "Details", "Size", "Seeders", "Peers",
    "Category", "PublishDate", "Imdb", "TMDb"]

/-- Read a result. -/
def ofSpelled? (v : Json.Spelled) : Option Result := do
  let r ← Json.Record.ofSpelled? fieldNames v
  let title ← r.required "Title" Json.toText?
  let guid ← r.optional "Guid" Json.toText?
  let link ← r.optional "Link" Json.toText?
  let magnetUri ← r.optional "MagnetUri" Json.toText?
  let infoHash ← r.optional "InfoHash" Json.toText?
  let details ← r.optional "Details" Json.toText?
  let size ← r.optional "Size" i64
  let seeders ← r.optional "Seeders" i32
  let peers ← r.optional "Peers" i32
  let categories ← r.withDefault "Category" (Json.readList? i64) []
  let publishDate ← r.optional "PublishDate" Json.toText?
  let imdb ← r.optional "Imdb" i64
  let tmdb ← r.optional "TMDb" i64
  return { title, guid, link, magnetUri, infoHash, details, size, seeders, peers, categories,
           publishDate, imdb, tmdb }

/-- The list of results in a document. -/
def listOf? : Json.Spelled → Option (List Json.Spelled)
  | .object members => do
    let known ← Json.Record.knownMembers? ["Results"] members
    Json.toArray? (← known.head?).2
  | .array [.array items] => some items
  | _ => none

/-- Read the results of a document. -/
def readAll? (document : List UInt8) : Option (List Result) := do
  let items ← listOf? (← Json.readSpelled? document)
  items.mapM ofSpelled?

/-! ## Items -/

/-- A date with an offset, or without one in UTC. -/
def readDate? (s : String) : Option Moment :=
  (Rfc3339.parse? s).orElse fun _ => Rfc3339.parseLocal? s

/-- The number that is not negative, or zero. -/
def natOrZero (n : Option Int) : Nat :=
  (n.getD 0).toNat

/-- A positive number. -/
def positive? (n : Option Int) : Option Nat :=
  n.bind fun i => if 0 < i then some i.toNat else none

/-- The link of an item: the result's own without a key, or else its magnet link. -/
def itemLink? (r : Result) (read : Url.Reader) : Option String :=
  match r.link with
  | some link => some (stripKey read link)
  | none => r.magnetUri

/-- The item that a result of a site stands for. -/
def toItem? (r : Result) (read : Url.Reader) (site : String) : Option Item :=
  (r.itemLink? read).map fun link =>
    { title := r.title
      link
      site
      localId := r.guid.getD link
      publishDate := r.publishDate.bind readDate?
      size := natOrZero r.size
      seeders := natOrZero r.seeders
      leechers := natOrZero r.peers - natOrZero r.seeders
      categories := r.categories.filterMap fun (c : Int) =>
        if 0 ≤ c ∧ c ≤ (Decimal.max32 : Int) then some c.toNat else none
      infoHash := r.infoHash.map lowercase
      magnetUri := r.magnetUri
      detailsUrl := r.details
      imdbId := (positive? r.imdb).map fun n => .ofList ('t' :: 't' :: Decimal.padded 7 n)
      tmdbId := positive? r.tmdb }

end Result

end TorznabGateway.Jackett
