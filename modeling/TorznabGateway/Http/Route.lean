import TorznabGateway.Encoding.Percent
import TorznabGateway.Text.Split

/-!
# Routes

The paths that the gateway serves. A pattern is a list of segments, some of which are placeholders.
A placeholder stands for any segment; at the end of a path the segment must not be empty. A path is
split before its escapes are resolved, so that an escaped slash stays within its segment. The label
under which a request is counted is found without the patterns; it has placeholders for everything
that clients choose.
-/
namespace TorznabGateway

open Text Encoding

/-- A part of a pattern. -/
inductive Segment where
  | literal (text : String)
  | placeholder (name : String)
  deriving DecidableEq, Repr

inductive Route where
  | health
  | config
  | status
  | metrics
  | caps
  | torznab
  | torznabApi
  | download
  | shortDownload
  deriving DecidableEq, Repr

namespace Route

/-- All routes; of several that serve a path the first is taken. -/
def all : List Route :=
  [.health, .config, .status, .metrics, .caps, .torznab, .torznabApi, .download, .shortDownload]

/-- The segments of the paths that a route serves. -/
def pattern : Route → List Segment
  | .health => [.literal "health"]
  | .config => [.literal "config"]
  | .status => [.literal "status"]
  | .metrics => [.literal "metrics"]
  | .caps => [.literal "torznab", .literal "caps", .placeholder "indexes"]
  | .torznab => [.literal "torznab", .placeholder "indexes"]
  | .torznabApi => [.literal "torznab", .placeholder "indexes", .literal "api"]
  | .download => [.literal "download", .placeholder "token", .placeholder "filename"]
  | .shortDownload => [.literal "d", .placeholder "token", .placeholder "filename"]

/-- The written form of a part of a pattern. -/
def segmentText : Segment → String
  | .literal text => text
  | .placeholder name => "\x7b" ++ name ++ "\x7d"

/-- The written form of a pattern. -/
def template (r : Route) : String :=
  .ofList (r.pattern.flatMap fun s => '/' :: (segmentText s).toList)

/-! ## Serving a path -/

/-- The segments of a path behind its first slash. -/
def segments? (path : String) : Option (List (List Char)) :=
  match path.toList with
  | '/' :: rest => some (splitOn '/' rest)
  | _ => none

/-- The segments that the placeholders of a pattern stand for, each with its name. -/
def capture? : List Segment → List (List Char) → Option (List (String × List Char))
  | [], [] => some []
  | .literal text :: pattern, s :: segments =>
    if text.toList = s then capture? pattern segments else none
  | [.placeholder name], [s] => if s.isEmpty then none else some [(name, s)]
  | .placeholder name :: pattern, s :: segments =>
    (capture? pattern segments).map ((name, s) :: ·)
  | _, _ => none

/-- The route that serves a path, and what its placeholders stand for. -/
def find? (path : String) : Option (Route × List (String × List Char)) :=
  (segments? path).bind fun segments =>
    all.findSome? fun r => (capture? r.pattern segments).map fun captured => (r, captured)

/-- A segment with an escape that is no UTF-8. -/
structure UnreadableSegment where
  name : String
  deriving DecidableEq, Repr

def UnreadableSegment.message (u : UnreadableSegment) : String :=
  "Invalid URL: Invalid UTF-8 in `" ++ u.name ++ "`"

/-- The texts that segments stand for after their escapes are resolved. -/
def decode (captured : List (String × List Char)) : Except UnreadableSegment (List String) :=
  captured.mapM fun (name, s) =>
    match Utf8.decode? (Percent.decodeBytes (Utf8.encodeChars s)) with
    | some text => .ok text
    | none => .error ⟨name⟩

/-! ## Counting by path -/

/-- The paths that are counted as they are. -/
def plainPaths : List String :=
  ["/health", "/config", "/status", "/metrics"]

/-- The label of all paths that are not served. -/
def otherLabel : String := "other"

/-- The first segment of the path of a download. The name of the file may be missing. -/
def downloadStart? : List (List Char) → Option (List Char)
  | [start, token] | [start, token, _] =>
    if (start = "d".toList ∨ start = "download".toList) ∧ token ≠ [] then some start else none
  | _ => none

/-- Whether a path is one of capabilities. -/
def isCapsPath : List (List Char) → Bool
  | [first, second, indexes] =>
    first = "torznab".toList && second = "caps".toList && !indexes.isEmpty
  | _ => false

/-- What stands behind the selector in the path of a Torznab request. -/
def torznabEnd? : List (List Char) → Option String
  | [first, indexes] => if first = "torznab".toList ∧ indexes ≠ [] then some "" else none
  | [first, indexes, last] =>
    if first = "torznab".toList ∧ indexes ≠ [] ∧ last = "api".toList then some "/api" else none
  | _ => none

/-- The label of the paths with some segments. -/
def labelOf (segments : List (List Char)) : String :=
  match downloadStart? segments with
  | some start => "/" ++ .ofList start ++ "/\x7btoken\x7d/\x7bfilename\x7d"
  | none =>
    if isCapsPath segments then "/torznab/caps/\x7bindexes\x7d"
    else match torznabEnd? segments with
      | some rest => "/torznab/\x7bindexes\x7d" ++ rest
      | none => otherLabel

/-- The label under which requests for a path are counted. -/
def label (path : String) : String :=
  if path ∈ plainPaths then path
  else match segments? path with
    | some segments => labelOf segments
    | none => otherLabel

end Route

end TorznabGateway
