import TorznabGateway.Auth.Secret
import TorznabGateway.Digest.Hmac
import TorznabGateway.Encoding.Base64Url
import TorznabGateway.Json.Record
import TorznabGateway.Json.Writer
import TorznabGateway.Metrics
import TorznabGateway.Text.Split

/-!
# Download tokens

A token names an indexer and the link a result has there, so that the file can be fetched later
without showing the link to clients. Its wire form is the base64 form of a JSON payload, a dot, and
the base64 form of the payload's authentication code under the shared secret. Reading verifies the
code before it looks at the payload.
-/
namespace TorznabGateway

open Text Encoding

/-- The indexer of a result and the result's link there. -/
structure DownloadToken where
  indexer : String
  sourceLink : String
  deriving DecidableEq, Repr

/-- Why a wire form is no token. -/
inductive TokenError where
  | malformed
  | invalidSignature
  deriving DecidableEq, Repr

def TokenError.message : TokenError → String
  | .malformed => "malformed token"
  | .invalidSignature => "invalid token signature"

/-- The reason under which a rejection is counted. -/
def TokenError.rejection : TokenError → TokenRejection
  | .malformed => .malformed
  | .invalidSignature => .invalidSignature

namespace DownloadToken

/-- The signed part: an object with the members `site` and `link`. -/
def payload (t : DownloadToken) : List UInt8 :=
  Utf8.encodeChars
    (Json.chars (.object [("site", .text t.indexer), ("link", .text t.sourceLink)]))

/-- Read a payload. Members other than `site` and `link` are ignored. -/
def ofPayload? (bs : List UInt8) : Option DownloadToken := do
  let r ← Json.Record.ofSpelled? ["site", "link"] (← Json.readSpelled? bs)
  let indexer ← r.required "site" Json.toText?
  let sourceLink ← r.required "link" Json.toText?
  return { indexer, sourceLink }

/-- The wire form of a payload under a secret. -/
def wireForm (secret : SharedSecret) (payload : List UInt8) : List Char :=
  Base64Url.encode payload ++ '.' :: Base64Url.encode (Digest.Hmac.tag secret.bytes payload)

/-- Sign a token. The same token and secret always give the same text. -/
def encode (t : DownloadToken) (secret : SharedSecret) : String × List Observation :=
  (.ofList (wireForm secret t.payload), [.tokenIssued])

/-- The two parts of a wire form: not empty, with one dot between them. -/
def splitParts? (cs : List Char) : Option (List Char × List Char) :=
  if cs.contains '.' then
    let (before, after) := splitFirst '.' cs
    if before.isEmpty || after.isEmpty || after.contains '.' then none else some (before, after)
  else none

/-- Verify and read a wire form. -/
def verify (secret : SharedSecret) (wire : String) : Except TokenError DownloadToken :=
  match splitParts? wire.toList with
  | none => .error .malformed
  | some (first, second) =>
    match Base64Url.decode? first, Base64Url.decode? second with
    | some payload, some tag =>
      if tag = Digest.Hmac.tag secret.bytes payload then
        match ofPayload? payload with
        | some t => .ok t
        | none => .error .malformed
      else .error .invalidSignature
    | _, _ => .error .malformed

/-- Verify and read a wire form, counting a rejection. -/
def decode (wire : String) (secret : SharedSecret) :
    Except TokenError DownloadToken × List Observation :=
  match verify secret wire with
  | .ok t => (.ok t, [])
  | .error e => (.error e, [.tokenRejected e.rejection])

end DownloadToken

end TorznabGateway
