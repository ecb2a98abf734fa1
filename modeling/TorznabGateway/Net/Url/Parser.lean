import TorznabGateway.Net.Url.Basic
import TorznabGateway.Net.Url.Host

/-!
# Reading URLs

An absolute URL in the form of the WHATWG standard: blanks and control characters around it are cut
off, tabs and line breaks in it are dropped, and what cannot stand in a part is escaped.
-/
namespace TorznabGateway.Url

open Text

/-! ## Parts -/

/-- A text without what is ignored in URLs. -/
def clean (cs : List Char) : List Char :=
  let isOuter := fun (c : Char) => c.toNat ≤ 0x20
  (dropEndWhile isOuter (cs.dropWhile isOuter)).filter fun c =>
    c != '\t' && c != '\n' && c != '\r'

/-- The part in front of the first separator, and the part behind it if there is one. -/
def splitAtMark (mark : Char) (cs : List Char) : List Char × Option (List Char) :=
  if cs.contains mark then
    let (before, after) := splitFirst mark cs
    (before, some after)
  else (cs, none)

/-- The scheme in lower case, and what is behind its colon. -/
def readScheme? (cs : List Char) : Option (List Char × List Char) :=
  match splitAtMark ':' cs with
  | (first :: more, some rest) =>
    let isLater := fun (c : Char) => c.isAlphanum || c == '+' || c == '-' || c == '.'
    if first.isAlpha && more.all isLater then some ((first :: more).map Char.toLower, rest)
    else none
  | _ => none

/-- Characters that are escaped in fragments. -/
def fragmentSet : List Char := [' ', '"', '<', '>', '`']

/-- Characters that are escaped in queries. -/
def querySet (isSpecial : Bool) : List Char :=
  [' ', '"', '#', '<', '>'] ++ (if isSpecial then ['\''] else [])

/-- Characters that are escaped in paths. -/
def pathSet : List Char := fragmentSet ++ ['#', '?', '\x7b', '\x7d']

/-- Characters that are escaped in user names and passwords. -/
def credentialSet : List Char := pathSet ++ ['/', ':', ';', '=', '@', '[', '\\', ']', '^', '|']

/-! ## Paths -/

/-- Whether a character separates segments. -/
def isSlash (isSpecial : Bool) (c : Char) : Bool :=
  c == '/' || (isSpecial && c == '\\')

/-- A segment that stands for the directory itself. -/
def isDot (s : List Char) : Bool :=
  [".", "%2e"].contains (String.ofList (s.map Char.toLower))

/-- A segment that stands for the directory above. -/
def isDotDot (s : List Char) : Bool :=
  ["..", ".%2e", "%2e.", "%2e%2e"].contains (String.ofList (s.map Char.toLower))

/-- A drive letter as a segment. -/
def isDrive : List Char → Bool
  | [a, b] => a.isAlpha && (b == ':' || b == '|')
  | _ => false

/-- A segment behind others; the first of a file may be a drive. -/
def addSegment (isFile : Bool) (before : List (List Char)) (s : List Char) : List (List Char) :=
  let s := match s with
    | [a, '|'] => if isFile && before.isEmpty && a.isAlpha then [a, ':'] else s
    | _ => s
  before ++ [escapeSet pathSet s]

/-- The segments without the last one; a drive stays. -/
def shorten (isFile : Bool) (before : List (List Char)) : List (List Char) :=
  match before with
  | [s] => if isFile && isDrive s then [s] else []
  | _ => before.dropLast

/-- The segments of a path, in which dots are resolved. -/
def resolveSegments (isFile : Bool) (before : List (List Char)) :
    List (List Char) → List (List Char)
  | [] => before
  | [s] =>
    if isDotDot s then shorten isFile before ++ [[]]
    else if isDot s then before ++ [[]]
    else addSegment isFile before s
  | s :: t :: rest =>
    if isDotDot s then resolveSegments isFile (shorten isFile before) (t :: rest)
    else if isDot s then resolveSegments isFile before (t :: rest)
    else resolveSegments isFile (addSegment isFile before s) (t :: rest)

/-- The path of a URL that may have a host. -/
def readPath (isSpecial isFile : Bool) (cs : List Char) : UrlPath :=
  let slashed := cs.map fun c => if isSlash isSpecial c then '/' else c
  match slashed with
  | [] => .segments (if isSpecial then [[]] else [])
  | '/' :: rest => .segments (resolveSegments isFile [] (splitOn '/' rest))
  | rest => .segments (resolveSegments isFile [] (splitOn '/' rest))

/-- A path that is one text. A blank at its end, behind which a query or a fragment stands, is
escaped, or it would be lost with them. -/
def escapeOpaque (cs : List Char) : List Char :=
  if cs.getLast? = some ' ' then escapeSet [] cs.dropLast ++ "%20".toList else escapeSet [] cs

/-! ## Authorities -/

/-- Host and port; a colon within brackets starts no port. -/
def splitPort (cs : List Char) : List Char × List Char :=
  let reversed := cs.reverse
  let tail := reversed.takeWhile fun c => c != ':' && c != ']'
  match reversed.drop tail.length with
  | ':' :: host => (host.reverse, tail.reverse)
  | _ => (cs, [])

/-- A port, unless it is the usual one. -/
def readPort? (scheme ds : List Char) : Option (Option Nat) :=
  if ds.isEmpty then some none
  else
    match Decimal.readNat? ds with
    | some n =>
      if Decimal.max16 < n then none
      else some (if defaultPort? scheme = some n then none else some n)
    | none => none

/-- Credentials and what is behind the last `@`. -/
def splitCredentials (cs : List Char) : Option (List Char) × List Char :=
  let reversed := cs.reverse
  let tail := reversed.takeWhile (· != '@')
  match reversed.drop tail.length with
  | _ :: credentials => (some credentials.reverse, tail.reverse)
  | [] => (none, cs)

/-- A URL with a host, without path, query and fragment. -/
def readAuthority? (toAscii : DomainToAscii) (scheme cs : List Char) : Option Url := do
  let isSpecial := isSpecialScheme scheme
  let (credentials, rest) := splitCredentials cs
  let (host, port) := splitPort rest
  if host.isEmpty && (isSpecial || credentials.isSome || !port.isEmpty) then none
  else
    let host ← readHost? toAscii isSpecial host
    let port ← readPort? scheme port
    let (username, password) := splitFirst ':' (credentials.getD [])
    return { scheme, username := escapeSet credentialSet username
             password := escapeSet credentialSet password, host := some host, port
             path := .segments [] }

/-- What stands in front of the first slash, and the rest. -/
def splitAuthority (isSpecial : Bool) (cs : List Char) : List Char × List Char :=
  let inAuthority := fun c => !isSlash isSpecial c
  (cs.takeWhile inAuthority, cs.dropWhile inAuthority)

/-! ## URLs -/

/-- A file URL behind its scheme, without query and fragment. -/
def readFile? (toAscii : DomainToAscii) (scheme cs : List Char) : Option Url :=
  match cs.map fun c => if c = '\\' then '/' else c with
  | '/' :: '/' :: rest =>
    let (host, path) := splitAuthority true rest
    if isDrive host then
      some { scheme, host := some [], path := readPath true true ('/' :: rest) }
    else if host.isEmpty then some { scheme, host := some [], path := readPath true true path }
    else do
      let host ← readHost? toAscii true host
      let host := if host = "localhost".toList then [] else host
      return { scheme, host := some host, path := readPath true true path }
  | path => some { scheme, host := some [], path := readPath true true path }

/-- A URL behind its scheme, without query and fragment. -/
def readHierarchy? (toAscii : DomainToAscii) (scheme cs : List Char) : Option Url :=
  if scheme = "file".toList then readFile? toAscii scheme cs
  else if isSpecialScheme scheme then do
    let (authority, path) := splitAuthority true (cs.dropWhile (isSlash true))
    let u ← readAuthority? toAscii scheme authority
    return { u with path := readPath true false path }
  else
    match cs with
    | '/' :: '/' :: rest => do
      let (authority, path) := splitAuthority false rest
      let u ← readAuthority? toAscii scheme authority
      return { u with path := readPath false false path }
    | '/' :: _ => some { scheme, path := readPath false false cs }
    | _ => some { scheme, path := .opaqueText (escapeOpaque cs) }

/-- Read a URL. -/
def parse? (toAscii : DomainToAscii) (s : String) : Option Url := do
  let (text, fragment) := splitAtMark '#' (clean s.toList)
  let (scheme, rest) ← readScheme? text
  let (hierarchy, query) := splitAtMark '?' rest
  let u ← readHierarchy? toAscii scheme hierarchy
  return { u with
    query := query.map (escapeSet (querySet (isSpecialScheme scheme)))
    fragment := fragment.map (escapeSet fragmentSet) }

end TorznabGateway.Url
