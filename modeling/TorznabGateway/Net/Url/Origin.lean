import TorznabGateway.Net.Url.Basic

/-!
# Readers and origins of URLs

A reader takes a text for a URL, or refuses it. The origin of a URL is its scheme, host and port, if
it is web-like and no file; a `blob` URL has the origin of the URL that a reader finds in its path.
-/
namespace TorznabGateway.Url

/-- A reader of URLs. -/
abbrev Reader := String → Option Url

/-- A scheme, a host and a port. -/
structure Origin where
  scheme : List Char
  host : List Char
  port : Nat
  deriving DecidableEq, Repr

/-- The origin of a URL, if it is one that others can have. A `blob` URL, which may be nested up to
`depth` times, has the origin of the URL in its path. -/
def originWithin? (read : Reader) : Nat → Url → Option Origin
  | 0, _ => none
  | depth + 1, u =>
    if u.scheme = "blob".toList then
      (read (.ofList (UrlPath.chars u.path))).bind (originWithin? read depth)
    else match defaultPort? u.scheme, u.host with
      | some usual, some host => some ⟨u.scheme, host, u.port.getD usual⟩
      | _, _ => none

/-- The origin of a URL, if it is one that others can have. -/
def origin? (read : Reader) (u : Url) : Option Origin :=
  originWithin? read ((UrlPath.chars u.path).length + 1) u

/-- Whether two URLs have the same origin. -/
def sameOrigin (read : Reader) (u v : Url) : Bool :=
  match origin? read u with
  | some o => origin? read v == some o
  | none => false

end TorznabGateway.Url
