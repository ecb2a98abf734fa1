import TorznabGateway.Indexer.Basic
import TorznabGateway.Jackett.Result

/-!
# Indexers behind a Jackett server

How an indexer of a Jackett server answers, given what comes back from the network. The network is a
function of the time and the address that is asked, so nothing here depends on how it is reached.
-/
namespace TorznabGateway.Jackett

open Text

/-- Why no answer, or only a part of one, came back. -/
inductive FetchFault where
  | timedOut
  | failed (message : String)
  deriving DecidableEq, Repr

/-- The error that a fault is reported as. -/
def FetchFault.error : FetchFault → IndexerError
  | .timedOut => .timeout
  | .failed message => .transport message

/-- An answer from the network. -/
structure Reply where
  status : Nat
  contentType : Option String := none
  contentLength : Option Nat := none
  body : List UInt8
  /-- The fault after which no more of the body came. -/
  brokenBy : Option FetchFault := none
  deriving DecidableEq, Repr

/-- What comes back for an address that is asked at a time. -/
abbrev Network := Nat → String → Except FetchFault Reply

/-- An indexer of a Jackett server under the name by which clients select it. -/
structure Source where
  name : String
  endpoint : Endpoint

/-- What is said of a body that is no list of results. -/
def unreadableMessage : String := "error decoding response body"

/-- How much of a body is quoted in an error. -/
def quotedLength : Nat := 200

/-- The start of a text. -/
def excerpt (s : String) : String :=
  .ofList (s.toList.take quotedLength)

namespace Source

/-- A reply as the answer to a request, or as the error it stands for. -/
def accept (s : Source) (r : Reply) : Except IndexerError Reply :=
  if r.status = 401 ∨ r.status = 403 then
    .error (.login s.name ("HTTP " ++ Decimal.render r.status))
  else if 200 ≤ r.status ∧ r.status < 300 then .ok r
  else
    let body := if r.brokenBy.isSome then "" else Utf8.decodeLossy r.body
    .error (.status r.status (excerpt body))

/-- Ask an address. -/
def fetch (s : Source) (network : Network) (now : Nat) (address : String) :
    Except IndexerError Reply :=
  match network now address with
  | .error fault => .error fault.error
  | .ok reply => s.accept reply

/-- The items in the body of a reply. -/
def items (s : Source) (read : Url.Reader) (r : Reply) : Except IndexerError (List Item) :=
  match r.brokenBy, Result.readAll? r.body with
  | none, some results => .ok (results.filterMap fun result => result.toItem? read s.name)
  | _, _ => .error (.parse unreadableMessage)

/-- Search. Jackett gives everything in one page. -/
def search (s : Source) (read : Url.Reader) (network : Network) (now : Nat) (q : SearchQuery) :
    SearchAnswer := do
  let reply ← s.fetch network now (s.endpoint.searchUrl q)
  let page ← s.items read reply
  return [⟨0, .ok page⟩]

/-- Fetch a file. -/
def download (s : Source) (read : Url.Reader) (network : Network) (now : Nat) (link : String) :
    Except IndexerError Download := do
  let reply ← s.fetch network now (s.endpoint.authorize read link)
  return { contentType := reply.contentType, contentLength := reply.contentLength
           body := reply.body, brokenBy := reply.brokenBy.map FetchFault.error }

/-- Whether a text has a part. -/
def hasPart (part : List Char) : List Char → Bool
  | [] => part.isEmpty
  | c :: cs => part.isPrefixOf (c :: cs) || hasPart part cs

/-- Check that the capabilities can be had and are no error document. -/
def check (s : Source) (network : Network) (now : Nat) : Except IndexerError Unit := do
  let reply ← s.fetch network now s.endpoint.capsUrl
  match reply.brokenBy with
  | some fault => .error fault.error
  | none =>
    let body := Utf8.decodeLossy reply.body
    if hasPart "<error".toList body.toList then .error (.parse (excerpt body)) else .ok ()

/-- The indexer, as it is reached over a network. -/
def toIndexer (s : Source) (read : Url.Reader) (network : Network) : Indexer where
  name := s.name
  capabilities := .standard
  search := s.search read network
  download := s.download read network
  check := s.check network

end Source

end TorznabGateway.Jackett
