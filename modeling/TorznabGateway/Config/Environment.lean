import TorznabGateway.Json.Basic
import TorznabGateway.Named
import TorznabGateway.Text.AsciiCase
import TorznabGateway.Text.Decimal
import TorznabGateway.Text.Escape
import TorznabGateway.Text.Scan
import TorznabGateway.Text.Split

/-!
# Settings in environment variables

A variable sets a setting if its name starts with `NABGATE_`, in any letter case. The rest of the
name is the path of the setting, with two underscores between its parts. The value is a boolean, a
number, a text in double quotes, a character in single quotes, a list in brackets or a table in
braces; what cannot be read as one of them is a text as it stands.
-/
namespace TorznabGateway.Environment

open Text

/-! ## Values -/

/-- Whether a character belongs to a word: it separates nothing. -/
def isWordChar (c : Char) : Bool :=
  c != ',' && c != '\x7b' && c != '\x7d' && c != '[' && c != ']'

def isDigit (c : Char) : Bool :=
  (Decimal.digitValue? c).isSome

/-- Whether digits, if there are any, end the text, perhaps before an exponent. -/
def endsNumber (cs : List Char) : Bool :=
  match cs.dropWhile isDigit with
  | [] => true
  | c :: rest =>
    let ds := match rest with
      | '+' :: ds => ds
      | '-' :: ds => ds
      | ds => ds
    (c == 'e' || c == 'E') && !ds.isEmpty && ds.all isDigit

/-- Whether a text is a number with a decimal point. -/
def isDecimal (cs : List Char) : Bool :=
  let unsigned := match cs with
    | '+' :: rest => rest
    | '-' :: rest => rest
    | rest => rest
  match unsigned.takeWhile isDigit, unsigned.dropWhile isDigit with
  | [], '.' :: d :: rest => isDigit d && endsNumber rest
  | _ :: _, '.' :: rest => endsNumber rest
  | _, _ => false

/-- The value of an integer of 64 bits, unsigned or with a sign. -/
def integer? (cs : List Char) : Option Json.Number :=
  match Decimal.readUpTo? Decimal.max64 cs with
  | some n => some (.integer false n)
  | none =>
    match cs with
    | '-' :: ds =>
      (Decimal.readNat? ds).bind fun n =>
        if n ≤ 0x8000000000000000 then some (.integer (n != 0) n) else none
    | _ => none

/-- A word as a number, if it is one, or as a text. -/
def ofWord (cs : List Char) : Json :=
  if isDecimal cs then .number (.decimal cs)
  else match integer? cs with
    | some n => .number n
    | none => .text (.ofList cs)

/-- The spelling up to a quote that is not behind a backslash. -/
def spellingToQuote : Scan (List Char)
  | [] => none
  | '"' :: rest => some ([], rest)
  | '\\' :: c :: rest => (spellingToQuote rest).map fun (s, rest) => ('\\' :: c :: s, rest)
  | c :: rest => (spellingToQuote rest).map fun (s, rest) => (c :: s, rest)

/-- A text in quotes behind the first of them. -/
def readQuoted : Scan String := fun cs => do
  let (spelling, rest) ← spellingToQuote cs
  return (.ofList (← Escape.resolve? Escape.isPlain spelling), rest)

/-- The name of a table's member. -/
def readName : Scan String
  | '"' :: rest => readQuoted rest
  | cs => (Scan.run (fun c => c.isAlphanum || c == '_' || c == '-') cs).map fun (s, rest) =>
    (.ofList s, rest)

/-- A member of a table. -/
def readMember (value : Scan Json) : Scan (String × Json) := fun cs => do
  let (name, rest) ← readName (cs.dropWhile isAsciiSpace)
  let (_, rest) ← Scan.char '=' (rest.dropWhile isAsciiSpace)
  let (v, rest) ← value rest
  return ((name, v), rest)

/-- What stands in front of a closing character, separated by commas. -/
def readSequence {α : Type} (item : Scan α) (close : Char) : Nat → Scan (List α)
  | 0, _ => none
  | fuel + 1, cs =>
    match Scan.char close cs with
    | some (_, rest) => some ([], rest)
    | none =>
      match item cs with
      | none => none
      | some (a, ',' :: rest) =>
        (readSequence item close fuel rest).map fun (as, rest) => (a :: as, rest)
      | some (a, rest) => (Scan.char close rest).map fun (_, rest) => ([a], rest)

/-- A value with up to so many lists and tables within each other. -/
def readValue : Nat → Scan Json
  | 0, _ => none
  | depth + 1, cs =>
    let found : Option (Json × List Char) := match cs.dropWhile isAsciiSpace with
      | 't' :: 'r' :: 'u' :: 'e' :: rest => some (.boolean true, rest)
      | 'f' :: 'a' :: 'l' :: 's' :: 'e' :: rest => some (.boolean false, rest)
      | '\x7b' :: rest =>
        (readSequence (readMember (readValue depth)) '\x7d' (rest.length + 1) rest).map
          fun (ms, rest) => (.object (ms.foldl (fun t m => Named.put m.1 m.2 t) []), rest)
      | '[' :: rest =>
        (readSequence (readValue depth) ']' (rest.length + 1) rest).map
          fun (vs, rest) => (.array vs, rest)
      | '"' :: rest => (readQuoted rest).map fun (s, rest) => (.text s, rest)
      | '\'' :: c :: '\'' :: rest => some (.text (String.ofList [c]), rest)
      | '\'' :: _ => none
      | cs => some (ofWord (trimChars (cs.takeWhile isWordChar)), cs.dropWhile isWordChar)
    found.map fun (v, rest) => (v, rest.dropWhile isAsciiSpace)

/-- The value of a variable. -/
def value (s : String) : Json :=
  match readValue (s.length + 1) s.toList with
  | some (v, []) => v
  | _ => .text s

/-! ## Names -/

/-- What names of variables start with. -/
def namePrefix : List Char :=
  "nabgate_".toList

/-- A name with a dot for every two underscores. -/
def dotted : List Char → List Char
  | '_' :: '_' :: rest => '.' :: dotted rest
  | c :: rest => c :: dotted rest
  | [] => []

/-- The path of the setting that a variable sets. White space around the name and around the path
does not count. -/
def path? (name : String) : Option (List String) :=
  let cs := trimChars name.toList
  if (cs.take namePrefix.length).map Char.toLower = namePrefix then
    let parts := splitOn '.' (trimChars (dotted (cs.drop namePrefix.length)))
    if parts.any List.isEmpty then none
    else some (parts.map fun p => asciiLower (.ofList p))
  else none

/-! ## Layers -/

mutual

/-- A value with another one laid over it: members of objects are merged, anything else is
replaced. -/
def overlay (under above : Json) : Json :=
  match above with
  | .object ms =>
    match under with
    | .object us => .object (overlayMembers us ms)
    | _ => .object ms
  | v => v

/-- The members of an object with other members laid over them. -/
def overlayMembers (us : List (String × Json)) : List (String × Json) → List (String × Json)
  | [] => us
  | (name, v) :: ms =>
    let merged := match Named.get? name us with
      | some u => overlay u v
      | none => v
    overlayMembers (Named.put name merged us) ms

end

/-- A value under a path. -/
def nest (v : Json) : List String → Json
  | [] => v
  | part :: path => .object [(part, nest v path)]

/-- What variables set, each laid over those before it in the order of their names. -/
def settings (env : List (String × String)) : Json :=
  (env.mergeSort fun a b => a.1 ≤ b.1).foldl (fun under (name, s) =>
    match path? name with
    | some path => overlay under (nest (value s) path)
    | none => under) (.object [])

/-- A document with what variables set laid over it. The variables are put together first, so that
one that replaces another says nothing about the document. -/
def apply (document : Json) (env : List (String × String)) : Json :=
  overlay document (settings env)

end TorznabGateway.Environment
