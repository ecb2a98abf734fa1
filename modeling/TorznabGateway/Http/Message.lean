import TorznabGateway.Text.AsciiCase
import TorznabGateway.Text.Decimal
import TorznabGateway.Text.Split
import TorznabGateway.Text.Utf8

/-!
# Requests and responses

What a client asks of the gateway over HTTP, and what it gets. Names of headers are in lower case in
responses and in any case in requests.
-/
namespace TorznabGateway

open Text

structure HttpRequest where
  method : String
  /-- The path of the target, escapes included. -/
  path : String
  /-- The query of the target, escapes included. -/
  query : String
  headers : List (String × String) := []
  deriving DecidableEq, Repr

namespace HttpRequest

/-- A request for a target in origin form, whose fragment is dropped. -/
def ofTarget (method target : String) (headers : List (String × String)) : HttpRequest :=
  let (target, _) := splitFirst '#' target.toList
  let (path, query) := splitFirst '?' target
  { method, path := .ofList path, query := .ofList query, headers }

/-- The first header of a name. -/
def header? (r : HttpRequest) (name : String) : Option String :=
  (r.headers.find? fun h => eqIgnoreAsciiCase h.1 name).map (·.2)

end HttpRequest

structure HttpResponse where
  status : Nat
  headers : List (String × String) := []
  body : List UInt8 := []
  deriving DecidableEq, Repr

namespace HttpResponse

/-- A response that states how long its body is. -/
def sized (status : Nat) (headers : List (String × String)) (body : List UInt8) : HttpResponse :=
  { status, headers := headers ++ [("content-length", Decimal.render body.length)], body }

/-- A text of some media type. -/
def ofText (status : Nat) (contentType body : String) : HttpResponse :=
  sized status [("content-type", contentType)] (Utf8.encode body)

/-- A plain text. -/
def plain (status : Nat) (body : String) : HttpResponse :=
  ofText status "text/plain; charset=utf-8" body

/-- What a request for the headers alone gets. -/
def withoutBody (r : HttpResponse) : HttpResponse :=
  { r with body := [] }

end HttpResponse

end TorznabGateway
