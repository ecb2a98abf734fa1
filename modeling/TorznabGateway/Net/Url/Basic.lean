import TorznabGateway.Encoding.Form
import TorznabGateway.Text.Decimal

/-!
# URLs

The parts of a URL in their normal form, its text, and the pairs of its query.
-/
namespace TorznabGateway

open Text Encoding

/-- The path of a URL: segments behind slashes, or a text of another form. -/
inductive UrlPath where
  | segments (xs : List (List Char))
  | opaqueText (cs : List Char)
  deriving DecidableEq, Repr

/-- A URL; the parts are escaped where they need to be. -/
structure Url where
  scheme : List Char
  username : List Char := []
  password : List Char := []
  host : Option (List Char) := none
  /-- The port, unless it is the usual one of the scheme. -/
  port : Option Nat := none
  path : UrlPath
  query : Option (List Char) := none
  fragment : Option (List Char) := none
  deriving DecidableEq, Repr

namespace Url

/-- The usual port of a scheme of web-like URLs. -/
def defaultPort? (scheme : List Char) : Option Nat :=
  if scheme = "http".toList ∨ scheme = "ws".toList then some 80
  else if scheme = "https".toList ∨ scheme = "wss".toList then some 443
  else if scheme = "ftp".toList then some 21
  else none

/-- Whether URLs of a scheme are web-like: they have a host, and a backslash is a slash. -/
def isSpecialScheme (scheme : List Char) : Bool :=
  (defaultPort? scheme).isSome || scheme = "file".toList

/-! ## Text -/

/-- User, password and `@`, if there are any. -/
def credentialChars (u : Url) : List Char :=
  if u.username.isEmpty && u.password.isEmpty then []
  else if u.password.isEmpty then u.username ++ ['@']
  else u.username ++ ':' :: u.password ++ ['@']

/-- The port behind its colon. -/
def portChars (u : Url) : List Char :=
  match u.port with
  | some n => ':' :: Decimal.digits n
  | none => []

/-- Everything between the scheme and the path. A path that starts with an empty segment must not
be taken for a host. -/
def authorityChars (u : Url) : List Char :=
  match u.host with
  | some host => ['/', '/'] ++ u.credentialChars ++ host ++ u.portChars
  | none =>
    match u.path with
    | .segments ([] :: _ :: _) => ['/', '.']
    | _ => []

def UrlPath.chars : UrlPath → List Char
  | .segments xs => xs.flatMap ('/' :: ·)
  | .opaqueText cs => cs

/-- A part behind the character that starts it. -/
def behind (mark : Char) : Option (List Char) → List Char
  | some cs => mark :: cs
  | none => []

/-- The text of a URL. -/
def chars (u : Url) : List Char :=
  u.scheme ++ ':' :: u.authorityChars ++ UrlPath.chars u.path ++ behind '?' u.query
    ++ behind '#' u.fragment

def render (u : Url) : String :=
  .ofList u.chars

/-! ## Query -/

/-- The pairs of the query. -/
def queryPairs (u : Url) : List (String × String) :=
  Form.parse (Utf8.encodeChars (u.query.getD []))

/-- Put other pairs in place of the query; without pairs there is no query. -/
def withPairs (u : Url) (pairs : List (String × String)) : Url :=
  { u with query := if pairs.isEmpty then none else some (Form.serialize pairs) }

/-- Add a pair behind the query as it is. -/
def appendPair (u : Url) (pair : String × String) : Url :=
  let query := u.query.getD []
  let added := Form.encodePair pair
  { u with query := some (if query.isEmpty then added else query ++ '&' :: added) }

end Url

end TorznabGateway
