import TorznabGateway.Digest.Sha256
import TorznabGateway.Json.Record
import TorznabGateway.Json.Writer
import TorznabGateway.Metrics
import TorznabGateway.Text.AsciiCase
import TorznabGateway.Time.Rfc3339
import TorznabGateway.Uuid

/-!
# Result items

One result of a search as an indexer reports it (`Item`), the same with what earlier sightings say
about it (`TrackedItem`), and the feed that answers a query. The identity of an item is its `key`;
its `fingerprint` changes when its title, size or link does.
-/
namespace TorznabGateway

open Text Time

/-- A result as an indexer reports it. -/
structure Item where
  title : String
  /-- The link that the indexer hands out. -/
  link : String
  /-- Where the result comes from, when that is not `link`. -/
  sourceLink : Option String := none
  /-- The name of the indexer. -/
  site : String
  /-- The indexer's own identifier of the result. -/
  localId : String
  publishDate : Option Moment := none
  size : Nat := 0
  seeders : Nat := 0
  leechers : Nat := 0
  categories : List Nat := []
  infoHash : Option String := none
  magnetUri : Option String := none
  detailsUrl : Option String := none
  imdbId : Option String := none
  tmdbId : Option Nat := none
  deriving DecidableEq, Repr, Inhabited

namespace Item

/-- The link that a download should fetch in the end. -/
def canonicalLink (i : Item) : String :=
  match i.sourceLink with
  | some link => if link.isEmpty then i.link else link
  | none => i.link

/-- The scheme of magnet links, with its colon. -/
def magnetScheme : List Char :=
  ['m', 'a', 'g', 'n', 'e', 't', ':']

/-- Whether the link is a magnet link; letter case does not matter in a scheme. -/
def isMagnet (i : Item) : Bool :=
  (i.link.toList.take magnetScheme.length).map Char.toLower == magnetScheme

/-- The part of the key that is the indexer's own. -/
def localPart (i : Item) : String :=
  if i.localId.isEmpty then i.canonicalLink else i.localId

/-- The identity of the item across searches. -/
def key (i : Item) : String :=
  i.site ++ "/" ++ i.localPart

/-- The bytes under the fingerprint: title, size in eight bytes and link, with zeros between. -/
def fingerprintBytes (i : Item) : List UInt8 :=
  Utf8.encode i.title ++ 0 :: Digest.natBytes 8 i.size ++ 0 :: Utf8.encode i.canonicalLink

/-- Changes when the title, size or link of the item does. -/
def fingerprint (i : Item) : String :=
  Hex.encode (Digest.Sha256.digest i.fingerprintBytes)

/-! ## As JSON -/

/-- The fields in the order in which they are written. -/
def fieldNames : List String :=
  ["title", "link", "source_link", "site", "local_id", "publish_date", "size", "seeders",
    "leechers", "categories", "info_hash", "magnet_uri", "details_url", "imdb_id", "tmdb_id"]

/-- Read a date in its relaxed form. -/
def readMoment? (v : Json) : Option Moment :=
  (Json.toText? v).bind Rfc3339.parseRelaxed?

def ofRecord? (r : Json.Record) : Option Item := do
  let title ← r.required "title" Json.toText?
  let link ← r.required "link" Json.toText?
  let sourceLink ← r.optionalOrCut "source_link" Json.toText?
  let site ← r.required "site" Json.toText?
  let localId ← r.required "local_id" Json.toText?
  let publishDate ← r.optionalOrCut "publish_date" readMoment?
  let size ← r.withDefault "size" (Json.toNatUpTo? Decimal.max64) 0
  let seeders ← r.withDefault "seeders" (Json.toNatUpTo? Decimal.max32) 0
  let leechers ← r.withDefault "leechers" (Json.toNatUpTo? Decimal.max32) 0
  let categories ← r.withDefault "categories" (Json.readList? (Json.toNatUpTo? Decimal.max32)) []
  let infoHash ← r.optionalOrCut "info_hash" Json.toText?
  let magnetUri ← r.optionalOrCut "magnet_uri" Json.toText?
  let detailsUrl ← r.optionalOrCut "details_url" Json.toText?
  let imdbId ← r.optionalOrCut "imdb_id" Json.toText?
  let tmdbId ← r.optionalOrCut "tmdb_id" (Json.toNatUpTo? Decimal.max64)
  return { title, link, sourceLink, site, localId, publishDate, size, seeders, leechers,
           categories, infoHash, magnetUri, detailsUrl, imdbId, tmdbId }

/-- Read an item. -/
def ofJson? (v : Json) : Option Item :=
  (Json.Record.ofJson? .refused fieldNames v).bind ofRecord?

/-- The members of an item's object; options that are absent are left out. -/
def members (i : Item) : List (String × Json) :=
  [("title", .text i.title), ("link", .text i.link)]
    ++ Json.optionMember "source_link" (i.sourceLink.map .text)
    ++ [("site", .text i.site), ("local_id", .text i.localId)]
    ++ Json.optionMember "publish_date" (i.publishDate.map fun m => .text (Rfc3339.render m))
    ++ [("size", Json.ofNat i.size), ("seeders", Json.ofNat i.seeders),
        ("leechers", Json.ofNat i.leechers),
        ("categories", .array (i.categories.map Json.ofNat))]
    ++ Json.optionMember "info_hash" (i.infoHash.map .text)
    ++ Json.optionMember "magnet_uri" (i.magnetUri.map .text)
    ++ Json.optionMember "details_url" (i.detailsUrl.map .text)
    ++ Json.optionMember "imdb_id" (i.imdbId.map .text)
    ++ Json.optionMember "tmdb_id" (i.tmdbId.map Json.ofNat)

/-- An item as an object. -/
def toJson (i : Item) : Json :=
  .object i.members

end Item

/-- An item with the identifier and the state that earlier sightings give it. -/
structure TrackedItem where
  item : Item
  uuid : Uuid
  fingerprint : String
  state : ItemState
  deriving DecidableEq, Repr

/-- An entry of a feed. -/
inductive ResultItem where
  | scraped (item : Item)
  | tracked (item : TrackedItem)
  deriving DecidableEq, Repr

namespace ResultItem

/-- The item itself. -/
def item : ResultItem → Item
  | .scraped i => i
  | .tracked t => t.item

/-- The identifier: a tracked item's own, else one derived from the key. -/
def uuid : ResultItem → Uuid
  | .scraped i => .ofName .urlNamespace i.key
  | .tracked t => t.uuid

/-- The state of a tracked item. -/
def state? : ResultItem → Option ItemState
  | .scraped _ => none
  | .tracked t => some t.state

end ResultItem

namespace ItemState

/-- Read the name of a state. -/
def ofName? (s : String) : Option ItemState :=
  [ItemState.new, .updated, .unchanged].find? (·.name == s)

/-- Read a state as an entry of a feed holds it. -/
def ofJson? (v : Json) : Option ItemState :=
  (Json.variantName? Json.isNullOrEmpty v).bind ofName?

end ItemState

namespace TrackedItem

def fieldNames : List String :=
  ["item", "uuid", "fingerprint", "state"]

/-- Read an item with its tracking data. -/
def ofJson? (v : Json) : Option TrackedItem := do
  let r ← Json.Record.ofJson? .refused fieldNames v
  let item ← r.required "item" Item.ofJson?
  let uuid ← r.required "uuid" fun v => (Json.toText? v).bind Uuid.parse?
  let fingerprint ← r.required "fingerprint" Json.toText?
  let state ← r.required "state" ItemState.ofJson?
  return { item, uuid, fingerprint, state }

end TrackedItem

namespace ResultItem

/-- Read an entry: an object that says its kind in a member, or a list that starts with it. -/
def ofJson? (v : Json) : Option ResultItem := do
  let (kind, content) ← match v with
    | .object members =>
      let kind ← Json.lookup? "kind" members
      some (kind, Json.Tree.object (members.filter (·.1 != "kind")))
    | .array (kind :: items) => some (kind, Json.Tree.array items)
    | _ => none
  match Json.toText? kind with
  | some "scraped" => (Item.ofJson? content).map .scraped
  | some "tracked" => (TrackedItem.ofJson? content).map .tracked
  | _ => none

/-- A tracked entry as an object that says its kind; other entries are items. -/
def toJson : ResultItem → Json
  | .scraped i => .object (("kind", .text "scraped") :: i.members)
  | .tracked t => .object
      [("kind", .text "tracked"), ("item", t.item.toJson), ("uuid", .text t.uuid.render),
       ("fingerprint", .text t.fingerprint), ("state", .text t.state.name)]

end ResultItem

/-- What a feed says about itself. -/
structure FeedMeta where
  id : String
  title : String
  link : String
  language : String
  category : String
  /-- When the feed was built; a cached feed keeps it. -/
  updated : Moment
  deriving DecidableEq, Repr

namespace FeedMeta

def fieldNames : List String :=
  ["id", "title", "link", "language", "category", "updated"]

/-- Read what a feed says about itself. -/
def ofJson? (v : Json) : Option FeedMeta := do
  let r ← Json.Record.ofJson? .refused fieldNames v
  let id ← r.required "id" Json.toText?
  let title ← r.required "title" Json.toText?
  let link ← r.required "link" Json.toText?
  let language ← r.required "language" Json.toText?
  let category ← r.required "category" Json.toText?
  let updated ← r.required "updated" Item.readMoment?
  return { id, title, link, language, category, updated }

end FeedMeta

/-- The answer to a query. -/
structure Feed where
  about : FeedMeta
  items : List ResultItem
  deriving DecidableEq, Repr

end TorznabGateway
