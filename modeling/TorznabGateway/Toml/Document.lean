import TorznabGateway.Toml.Number
import TorznabGateway.Toml.Table

/-!
# TOML documents

Reading a document as a value. A document is a sequence of lines: pairs, headers, comments and empty
lines. The reader knows version 1.0 of the format; a byte order mark in front is skipped.
-/
namespace TorznabGateway.Toml

open Text

/-! ## Values -/

/-- Skip blanks, line breaks and comments. A comment must be ended by a line break. -/
def skipLines (inComment : Bool) : List Char → Option (List Char)
  | [] => if inComment then none else some []
  | '\n' :: rest => skipLines false rest
  | '\r' :: '\n' :: rest => skipLines false rest
  | c :: rest =>
    if inComment then (if Escape.isPlain c then skipLines true rest else none)
    else if isBlank c then skipLines false rest
    else if c = '#' then skipLines true rest
    else if c = '\r' then none
    else some (c :: rest)

/-- The items of an array behind its opening bracket. -/
def readItems (item : Scan Json) : Nat → Scan (List Json)
  | 0, _ => none
  | fuel + 1, cs =>
    match skipLines false cs with
    | none => none
    | some (']' :: rest) => some ([], rest)
    | some cs =>
      match item cs with
      | none => none
      | some (v, rest) =>
        match skipLines false rest with
        | some (',' :: rest) => (readItems item fuel rest).map fun (vs, rest) => (v :: vs, rest)
        | some (']' :: rest) => some ([v], rest)
        | _ => none

/-- A key, an equals sign and a value. -/
def readPair (value : Scan Json) : Scan Pair := fun cs => do
  let (path, rest) ← readKey cs
  let (_, rest) ← Scan.char '=' rest
  let (v, rest) ← value (skipBlanks rest)
  return (⟨path, v⟩, rest)

/-- The pairs of a non-empty inline table behind its opening brace. -/
def readPairs (value : Scan Json) : Nat → Scan (List Pair)
  | 0, _ => none
  | fuel + 1, cs =>
    match readPair value cs with
    | none => none
    | some (p, rest) =>
      match skipBlanks rest with
      | ',' :: rest => (readPairs value fuel rest).map fun (ps, rest) => (p :: ps, rest)
      | '\x7d' :: rest => some ([p], rest)
      | _ => none

/-- An inline table behind its opening brace. -/
def readInlineTable (value : Scan Json) : Scan Json := fun cs =>
  match skipBlanks cs with
  | '\x7d' :: rest => some (.object [], rest)
  | _ => do
    let (pairs, rest) ← readPairs value (cs.length + 1) cs
    let entries ← Entries.addPairs [] pairs
    return (.object (membersOf entries), rest)

/-- A value with up to `depth` arrays and inline tables within each other. -/
def readValue : Nat → Scan Json
  | _, 't' :: 'r' :: 'u' :: 'e' :: rest => some (.boolean true, rest)
  | _, 'f' :: 'a' :: 'l' :: 's' :: 'e' :: rest => some (.boolean false, rest)
  | 0, cs => readAtom cs
  | depth + 1, cs =>
    match cs with
    | '[' :: rest =>
      (readItems (readValue depth) (rest.length + 1) rest).map fun (vs, rest) => (.array vs, rest)
    | '\x7b' :: rest => readInlineTable (readValue depth) rest
    | _ => readAtom cs
where
  /-- A text or a number. -/
  readAtom : Scan Json := fun cs =>
    match readText cs with
    | some (s, rest) => some (.text s, rest)
    | none => readNumber cs

/-! ## Lines -/

/-- A line that says something. -/
inductive Line where
  | header (h : Header)
  | pair (p : Pair)

/-- A line break or the end of the document, after blanks and a comment. -/
def endLine? (cs : List Char) : Option (List Char) :=
  let rest := match skipBlanks cs with
    | '#' :: rest => rest.dropWhile Escape.isPlain
    | rest => rest
  if rest.isEmpty then some [] else afterBreak? rest

/-- A header behind its opening bracket. -/
def readHeader : Scan Header
  | '[' :: rest => do
    let (path, rest) ← readKey rest
    let (_, rest) ← Scan.chars [']', ']'] rest
    return (.element path, rest)
  | cs => do
    let (path, rest) ← readKey cs
    let (_, rest) ← Scan.char ']' rest
    return (.table path, rest)

/-- The line that starts a text which is not blank. -/
def readLine : Scan Line
  | '[' :: rest => (readHeader rest).map fun (h, rest) => (.header h, rest)
  | cs => (readPair (readValue maxDepth) cs).map fun (p, rest) => (.pair p, rest)

/-- The lines of a document. -/
def readLines? : Nat → List Char → Option (List Line)
  | 0, _ => none
  | fuel + 1, cs =>
    match endLine? cs with
    | some [] => some []
    | some rest => readLines? fuel rest
    | none =>
      match readLine (skipBlanks cs) with
      | none => none
      | some (line, rest) =>
        match endLine? rest with
        | none => none
        | some rest => (readLines? fuel rest).map (line :: ·)

/-! ## The document -/

/-- The pairs in front of the first header, and the sections. -/
def sections : List Line → List Pair × List Section
  | [] => ([], [])
  | .pair p :: rest =>
    let (pairs, sections) := sections rest
    (p :: pairs, sections)
  | .header h :: rest =>
    let (pairs, sections) := sections rest
    ([], ⟨h, pairs⟩ :: sections)

/-- The table that lines define. -/
def tableOf? (lines : List Line) : Option Entries :=
  let (pairs, sections) := sections lines
  (Entries.addPairs [] pairs).bind fun root => sections.foldlM Entries.addSection root

/-- The text of a document without a byte order mark. -/
def dropMark : List Char → List Char
  | '\uFEFF' :: rest => rest
  | cs => cs

/-- The value of a document. -/
def parse? (document : String) : Option Json := do
  let cs := dropMark document.toList
  let lines ← readLines? (cs.length + 1) cs
  return .object (membersOf (← tableOf? lines))

end TorznabGateway.Toml
