import TorznabGateway.Net.Url.Origin
import TorznabGateway.Search.Query

/-!
# Links to a Jackett server

The addresses that Jackett is asked at, and its download links. Jackett puts its key into the
download links it gives. The key is taken out before a link leaves the gateway, and put back when a
link of the same server is fetched, so that it never reaches clients or other servers. How links are
read as URLs is a parameter.
-/
namespace TorznabGateway.Jackett

open Text Encoding

/-- An indexer of a Jackett server. -/
structure Endpoint where
  /-- The URL of the server without slashes at its end. -/
  baseUrl : String
  apiKey : String
  /-- Jackett's name for the indexer. -/
  id : String
  deriving DecidableEq, Repr

/-- The parameter that holds the key in download links. -/
def keyParameter : String := "jackett_apikey"

namespace Endpoint

/-- Where Jackett answers for the indexer. -/
def resultsUrl (e : Endpoint) : String :=
  e.baseUrl ++ "/api/v2.0/indexers/" ++ Percent.encode e.id ++ "/results"

/-- The address of a search. -/
def searchUrl (e : Endpoint) (q : SearchQuery) : String :=
  e.resultsUrl ++ "?apikey=" ++ Percent.encode e.apiKey
    ++ "&Query=" ++ Percent.encode q.searchText
    ++ String.join (q.categories.map fun c => "&Category[]=" ++ Decimal.render c)
    ++ (q.imdbId.elim "" fun id => "&imdbid=" ++ Percent.encode id)
    ++ (q.tmdbId.elim "" fun n => "&tmdbid=" ++ Decimal.render n)

/-- The address of the capabilities, which serves as a health check. -/
def capsUrl (e : Endpoint) : String :=
  e.resultsUrl ++ "/torznab/api?apikey=" ++ Percent.encode e.apiKey ++ "&t=caps"

/-- A link with the key, if it is one of this server without a key; any other link as it is. -/
def authorize (e : Endpoint) (read : Url.Reader) (link : String) : String :=
  match read link, read e.baseUrl with
  | some url, some base =>
    if !Url.sameOrigin read url base || url.queryPairs.any (·.1 == keyParameter) then link
    else (url.appendPair (keyParameter, e.apiKey)).render
  | _, _ => link

end Endpoint

/-- A link without a key. -/
def stripKey (read : Url.Reader) (link : String) : String :=
  match read link with
  | none => link
  | some url =>
    if url.queryPairs.any (·.1 == keyParameter) then
      (url.withPairs (url.queryPairs.filter (·.1 != keyParameter))).render
    else link

end TorznabGateway.Jackett
