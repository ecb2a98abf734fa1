import TorznabGateway.Search.Query

/-!
# Sample items

A result with a link on the web and one with a magnet link, for examples.
-/
namespace TorznabGateway.Sample

open Text Time

/-- The date of sample items: 2024-06-15, half past ten in the morning. -/
def published : Moment :=
  ⟨(Date.mk 2024 6 15).toDays * 86400 + (10 * 3600 + 30 * 60), 0⟩

/-- A result of a site, with a link on the web. -/
def webItem (site localId title : String) : Item where
  title
  link := "https://" ++ site ++ ".example/download/" ++ localId ++ ".torrent"
  site
  localId
  publishDate := some published
  size := 734003200
  seeders := 50
  leechers := 10
  categories := [2000]
  detailsUrl := some ("https://" ++ site ++ ".example/t/" ++ localId)

/-- An identifier filled up with zeros to the forty digits of a hash. -/
def hashOf (localId : String) : String :=
  .ofList (List.replicate (40 - localId.length) '0' ++ localId.toList)

/-- A result of a site, with a magnet link. -/
def magnetItem (site localId title : String) : Item :=
  let magnet := "magnet:?xt=urn:btih:" ++ hashOf localId
  { webItem site localId title with
    link := magnet, infoHash := some (hashOf localId), magnetUri := some magnet }

/-- A plain search with repeated categories, and with limit and offset taken from the lengths of
the site and the identifier. -/
def query (site localId title : String) : SearchQuery where
  function := .search
  text := title
  categories := [3, 1, 3]
  limit := some (Utf8.encode localId).length
  offset := (Utf8.encode site).length
  maxPages := some 2

end TorznabGateway.Sample
