import TorznabGateway.Config.Basic
import TorznabGateway.Encoding.Form
import TorznabGateway.Http.Disposition
import TorznabGateway.Http.Message
import TorznabGateway.Http.Route
import TorznabGateway.Status
import TorznabGateway.Torznab.Responder

/-!
# The gateway

The HTTP service: its parts as they are configured, what changes while it runs, and how it answers a
request. A request for a search may carry its key in a header instead of a parameter. A download
whose token is not valid, or names an indexer that is not there, gets the same answer in all cases.
-/
namespace TorznabGateway

open Text Encoding Time

/-- The parts of the service that do not change. -/
structure Gateway where
  config : Config
  registry : Registry
  responder : TorznabResponder

/-- What changes while the service runs. -/
structure GatewayState where
  torznab : ResponderState
  health : StatusCache
  /-- The number of answered requests by method, label and status. -/
  requests : Named Nat := []

/-- A request that was served, the state after it, and what was done for it. -/
structure GatewayStep where
  /-- The answer, unless there is none. -/
  response : Option HttpResponse
  state : GatewayState
  /-- The milliseconds that the answer took. -/
  elapsed : Nat := 0
  /-- The indexers whose search was started, with the query they were given. -/
  searches : List (String × SearchQuery) := []
  /-- The indexers that were asked for a file, with its link. -/
  downloads : List (String × String) := []
  observed : List Observation := []

namespace Gateway

/-- Put the service together. `random` is the secret of last resort, `ids` supplies identifiers, and
`wall` tells the date at a time. -/
def new (config : Config) (registry : Registry) (random : List UInt8) (ids : Nat → Uuid)
    (wall : Nat → Moment) : Gateway :=
  let secret := SharedSecret.derive (Utf8.encode (config.auth.apiKey.getD ""))
    (config.auth.passphrase.getD "") random
  let publicUrl := config.server.publicBase
  let aggregator : SearchAggregator :=
    (({ issuer := .new publicUrl secret, ids } : SearchAggregator).withMaxPages
      config.search.maxPages).withChannelCapacity config.search.channelCapacity
  { config, registry
    responder :=
      { registry, secret, aggregator, publicUrl := trimEndOf '/' publicUrl, wall } }

/-- The state of a service that was just started. -/
def start (g : Gateway) : GatewayState :=
  let c := g.config.cache
  { torznab :=
      { feeds := .new c.searchCapacity (c.searchTtlSecs * 1000)
        seen := .new SeenStore.defaultCapacity SeenStore.defaultTtl }
    health := .new c.statusCapacity (c.statusTtlSecs * 1000) }

/-! ## Answers -/

/-- The media type of capabilities and errors. -/
def xmlType : String := "application/xml; charset=utf-8"

/-- The media type of JSON. -/
def jsonType : String := "application/json"

/-- The answer to a Torznab request. -/
def ofOutcome : TorznabOutcome → Option HttpResponse
  | .redirect location => some (.sized 307 [("location", location)] [])
  | .caps xml => some (.ofText 200 xmlType xml)
  | .feed e => some (.ofText 200 e.contentType e.body)
  | .error e => some (.ofText e.status xmlType e.xml)
  | .unanswered => none

/-- The answer for a path that is not served. -/
def unknownPath : HttpResponse :=
  { status := 404 }

/-- The answer to a method that is not served. -/
def wrongMethod : HttpResponse :=
  .sized 405 [("allow", "GET,HEAD")] []

/-- The answer to every download that is refused. -/
def refused : HttpResponse :=
  .plain 404 "Not found"

/-- Characters of a header that is read or written as a text. -/
def isHeaderText (c : Char) : Bool :=
  c == '\t' || (0x20 ≤ c.toNat && c.toNat ≤ 0x7E)

/-- The header that names a downloaded file, unless the name does not fit into a header. -/
def disposition? (filename : String) : Option (String × String) :=
  let value := Disposition.value filename
  if value.toList.all isHeaderText then some ("content-disposition", value) else none

/-- A file on its way to the client. -/
def ofDownload (filename : String) (d : Download) : HttpResponse :=
  { status := 200
    headers :=
      [("content-type", Feed.torrentType), ("content-transfer-encoding", "binary")]
        ++ (disposition? filename).toList
        ++ (d.contentLength.map fun n => ("content-length", Decimal.render n)).toList
    body := d.body }

/-! ## Handlers -/

/-- The header that may carry the key. -/
def keyHeader : String := "x-api-key"

/-- The key in the header, unless it is blank. -/
def headerKey? (r : HttpRequest) : Option String :=
  match r.header? keyHeader with
  | some v => if v.toList.all isHeaderText then nonBlank? v else none
  | none => none

/-- The parameters of a request, with the key from the header if there is none among them. -/
def torznabRequest (r : HttpRequest) :
    Except TorznabRequest.RepeatedParameter TorznabRequest := do
  let request ← TorznabRequest.ofPairs (Form.parse (Utf8.encode r.query))
  match request.apikey.getD "" with
  | "" => return { request with apikey := headerKey? r }
  | _ => return request

/-- What is said of a repeated parameter. -/
def repeatedMessage (p : TorznabRequest.RepeatedParameter) : String :=
  "Failed to deserialize query string: duplicate field `" ++ p.name ++ "`"

/-- Answer a Torznab request to some indexers. -/
def torznab (g : Gateway) (s : GatewayState) (now : Nat) (indexes : String) (r : HttpRequest) :
    GatewayStep :=
  match torznabRequest r with
  | .error p => { response := some (.plain 400 (repeatedMessage p)), state := s }
  | .ok request =>
    let step := g.responder.respond s.torznab now indexes request
    { response := ofOutcome step.outcome, state := { s with torznab := step.state }
      elapsed := step.elapsed, searches := step.searches, observed := step.observed }

/-- Fetch the file that a token names. -/
def download (g : Gateway) (s : GatewayState) (now : Nat) (token filename : String) :
    GatewayStep :=
  let (decoded, observed) := DownloadToken.decode token g.responder.secret
  match decoded with
  | .error _ => { response := some refused, state := s, observed }
  | .ok t =>
    match g.registry.find? t.indexer with
    | none => { response := some refused, state := s, observed }
    | some i =>
      let downloads := [(i.name, t.sourceLink)]
      match i.download now t.sourceLink with
      | .error _ =>
        { response := some (.plain 502 "Upstream download failed"), state := s, downloads
          observed }
      | .ok d => { response := some (ofDownload filename d), state := s, downloads, observed }

/-- The report on the indexers. -/
def status (g : Gateway) (s : GatewayState) (now : Nat) : GatewayStep :=
  let (report, _, health) := g.registry.status s.health now
  { response := some (.ofText 200 jsonType report.toJson.render), state := { s with health } }

/-- The counters as a text. -/
def metricsText (s : GatewayState) : String :=
  s.requests.foldl
    (fun text (key, n) => text ++ "nabgate_http_requests_total" ++ key ++ " " ++ Decimal.render n
      ++ "\n")
    "# TYPE nabgate_http_requests_total counter\n"

/-- Answer a request to a route whose placeholders stand for `texts`. -/
def serve (g : Gateway) (s : GatewayState) (now : Nat) (r : HttpRequest) (route : Route)
    (texts : List String) : GatewayStep :=
  match route, texts with
  | .health, _ =>
    { response := some (.ofText 200 jsonType (Json.render (.object [("status", .text "ok")])))
      state := s }
  | .config, _ =>
    { response := some (.ofText 200 jsonType g.config.sanitized.render), state := s }
  | .status, _ => g.status s now
  | .metrics, _ =>
    { response := some (.ofText 200 "text/plain; version=0.0.4" (metricsText s)), state := s }
  | .caps, [indexes] => { response := ofOutcome (g.responder.caps indexes), state := s }
  | .torznab, [indexes] => g.torznab s now indexes r
  | .torznabApi, [indexes] => g.torznab s now indexes r
  | .download, [token, filename] => g.download s now token filename
  | .shortDownload, [token, filename] => g.download s now token filename
  | _, _ => { response := some unknownPath, state := s }

/-! ## Requests -/

/-- Answer a request to a route. -/
def answerRoute (g : Gateway) (s : GatewayState) (now : Nat) (r : HttpRequest) (route : Route)
    (captured : List (String × List Char)) : GatewayStep :=
  if r.method = "GET" ∨ r.method = "HEAD" then
    let step := match Route.decode captured with
      | .error u => { response := some (.plain 400 u.message), state := s }
      | .ok texts => g.serve s now r route texts
    if r.method = "HEAD" then
      { step with response := step.response.map HttpResponse.withoutBody }
    else step
  else { response := some wrongMethod, state := s }

/-- Answer a request. -/
def answer (g : Gateway) (s : GatewayState) (now : Nat) (r : HttpRequest) : GatewayStep :=
  match Route.find? r.path with
  | none => { response := some unknownPath, state := s }
  | some (route, captured) => g.answerRoute s now r route captured

/-- What a request is counted under. -/
def counterKey (r : HttpRequest) (response : HttpResponse) : String :=
  "\x7bmethod=\"" ++ r.method ++ "\",path=\"" ++ Route.label r.path ++ "\",status=\""
    ++ Decimal.render response.status ++ "\"\x7d"

/-- Answer a request at time `now` and count it. -/
def handle (g : Gateway) (s : GatewayState) (now : Nat) (r : HttpRequest) : GatewayStep :=
  let step := g.answer s now r
  match step.response with
  | none => step
  | some response =>
    let key := counterKey r response
    let requests :=
      Named.put key ((Named.get? key step.state.requests).getD 0 + 1) step.state.requests
    { step with state := { step.state with requests } }

end Gateway

end TorznabGateway
