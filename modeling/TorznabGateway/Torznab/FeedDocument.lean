import TorznabGateway.Time.Rfc2822
import TorznabGateway.Torznab.Request
import TorznabGateway.Xml

/-!
# Feed documents

A feed as RSS with Torznab attributes, as Atom, and as JSON. No encoding shows an item's source
link. RSS dates have room for the years 0 to 9999 only, so a feed with an item published in
another year has no RSS form.
-/
namespace TorznabGateway

open Text Time

/-- A document with its media type. -/
structure EncodedFeed where
  contentType : String
  body : String
  deriving DecidableEq, Repr

namespace Feed

/-! ## RSS -/

/-- A Torznab attribute of an item. -/
def torznabAttribute (name value : String) : Xml.Event :=
  .empty "torznab:attr" [("name", name), ("value", value)]

/-- A Torznab attribute, if there is a value. -/
def optionalAttribute (name : String) : Option String → List Xml.Event
  | some value => [torznabAttribute name value]
  | none => []

/-- The media type of torrent files. -/
def torrentType : String := "application/x-bittorrent"

/-- Seeders and leechers together, as far as 32 bits hold them. -/
def peers (i : Item) : Nat :=
  min (i.seeders + i.leechers) Decimal.max32

/-- An item of the channel, given the written form of its publish date. -/
def rssItem (r : ResultItem) (pubDate : Option String) : List Xml.Event :=
  let i := r.item
  Xml.element "item" []
    (Xml.textElement "title" i.title
      ++ Xml.textElement "guid" r.uuid.render
      ++ Xml.textElement "link" i.link
      ++ Xml.optionalElement "comments" i.detailsUrl
      ++ Xml.optionalElement "pubDate" pubDate
      ++ Xml.textElement "size" (Decimal.render i.size)
      ++ i.categories.flatMap (fun c => Xml.textElement "category" (Decimal.render c))
      ++ (if i.link.isEmpty then [] else
          [.empty "enclosure" [("url", i.link), ("length", Decimal.render i.size),
            ("type", torrentType)]])
      ++ i.categories.map (fun c => torznabAttribute "category" (Decimal.render c))
      ++ [torznabAttribute "size" (Decimal.render i.size),
          torznabAttribute "seeders" (Decimal.render i.seeders),
          torznabAttribute "peers" (Decimal.render (peers i))]
      ++ optionalAttribute "infohash" i.infoHash
      ++ optionalAttribute "magneturl" i.magnetUri
      ++ optionalAttribute "imdbid" i.imdbId
      ++ optionalAttribute "tmdbid" (i.tmdbId.map Decimal.render))

/-- The written form of an item's publish date; refused if the date has none. -/
def pubDate? (i : Item) : Option (Option String) :=
  match i.publishDate with
  | none => some none
  | some m => (Rfc2822.render? m).map some

/-- The events of an item, if its date can be written. -/
def rssItem? (r : ResultItem) : Option (List Xml.Event) :=
  (pubDate? r.item).map (rssItem r)

/-- What stands before the items. -/
def rssHead (m : FeedMeta) : List Xml.Event :=
  .empty "atom:link" [("href", m.link), ("rel", "self"), ("type", "application/rss+xml")]
    :: (Xml.textElement "title" m.title
      ++ Xml.textElement "description" m.title
      ++ Xml.textElement "link" m.link
      ++ Xml.textElement "language" m.language
      ++ Xml.textElement "category" m.category)

/-- The events of the RSS form, if all dates can be written. -/
def rss? (f : Feed) : Option (List Xml.Event) :=
  (f.items.mapM rssItem?).map fun items =>
    .declaration :: Xml.element "rss"
      [("version", "2.0"), ("xmlns:atom", "http://www.w3.org/2005/Atom"),
       ("xmlns:torznab", "http://torznab.com/schemas/2015/feed")]
      (Xml.element "channel" [] (rssHead f.about ++ items.flatten))

/-! ## Atom -/

/-- An entry of the feed; an undated item counts as updated when the feed was built. -/
def atomEntry (built : Moment) (r : ResultItem) : List Xml.Event :=
  let i := r.item
  Xml.element "entry" []
    (Xml.textElement "id" ("urn:uuid:" ++ r.uuid.render)
      ++ Xml.textElement "title" i.title
      ++ Xml.textElement "updated" (Rfc3339.renderOffset (i.publishDate.getD built))
      ++ [.empty "link" [("href", i.link), ("rel", "enclosure"), ("type", torrentType),
          ("length", Decimal.render i.size)]]
      ++ (match i.detailsUrl with
          | some url => [.empty "link" [("href", url), ("rel", "alternate")]]
          | none => [])
      ++ i.categories.map (fun c => .empty "category" [("term", Decimal.render c)]))

/-- The events of the Atom form. -/
def atom (f : Feed) : List Xml.Event :=
  let m := f.about
  .declaration :: Xml.element "feed" [("xmlns", "http://www.w3.org/2005/Atom")]
    (Xml.textElement "id" m.id
      ++ Xml.textElement "title" m.title
      ++ Xml.textElement "updated" (Rfc3339.renderOffset m.updated)
      ++ [.empty "link" [("href", m.link), ("rel", "self")],
          .empty "category" [("term", m.category)]]
      ++ f.items.flatMap (atomEntry m.updated))

/-! ## JSON -/

/-- An item as clients see it. -/
def jsonItem (r : ResultItem) : Json :=
  let i := r.item
  .object
    ([("id", .text r.uuid.render), ("title", .text i.title), ("link", .text i.link),
      ("site", .text i.site)]
    ++ Json.optionMember "publish_date" (i.publishDate.map fun m => .text (Rfc3339.render m))
    ++ [("size", Json.ofNat i.size), ("seeders", Json.ofNat i.seeders),
        ("leechers", Json.ofNat i.leechers),
        ("categories", .array (i.categories.map Json.ofNat))]
    ++ Json.optionMember "info_hash" (i.infoHash.map .text)
    ++ Json.optionMember "magnet_uri" (i.magnetUri.map .text)
    ++ Json.optionMember "details_url" (i.detailsUrl.map .text)
    ++ Json.optionMember "imdb_id" (i.imdbId.map .text)
    ++ Json.optionMember "tmdb_id" (i.tmdbId.map Json.ofNat)
    ++ Json.optionMember "state" (r.state?.map fun s => .text s.name))

/-- The JSON form. -/
def json (f : Feed) : Json :=
  let m := f.about
  .object
    [("id", .text m.id), ("title", .text m.title), ("link", .text m.link),
     ("language", .text m.language), ("category", .text m.category),
     ("items", .array (f.items.map jsonItem))]

/-! ## Encoding -/

/-- A feed in one of the encodings; an RSS date without a written form leaves none. -/
def encode? (f : Feed) : FeedFormat → Option EncodedFeed
  | .xml => f.rss?.map fun events => ⟨"application/rss+xml; charset=utf-8", Xml.render events⟩
  | .atom => some ⟨"application/atom+xml; charset=utf-8", Xml.render f.atom⟩
  | .json => some ⟨"application/json", f.json.render⟩

end Feed

end TorznabGateway
