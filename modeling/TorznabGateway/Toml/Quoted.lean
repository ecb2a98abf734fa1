import TorznabGateway.Text.Escape
import TorznabGateway.Text.Scan
import TorznabGateway.Text.WhiteSpace

/-!
# Texts and keys in TOML

A text is quoted in one of four ways: basic or literal, on one line or over several. Basic texts
have escapes, literal ones do not. In a text of several lines a line break behind the opening quotes
is dropped, every other line break is a line feed, up to two quotes may stand anywhere, and in a
basic one a backslash at the end of a line takes the line break and the blanks behind it away.
-/
namespace TorznabGateway.Toml

open Text

def skipBlanks (cs : List Char) : List Char :=
  cs.dropWhile isBlank

/-- What follows a line break. -/
def afterBreak? : List Char → Option (List Char)
  | '\n' :: rest => some rest
  | '\r' :: '\n' :: rest => some rest
  | _ => none

/-- A text without a line break at its start. -/
def dropBreak (cs : List Char) : List Char :=
  (afterBreak? cs).getD cs

/-! ## One line -/

/-- The spelling up to a closing quote; with escapes, a character behind a backslash closes
nothing. -/
def spellingToQuote (quote : Char) (escapes : Bool) : Scan (List Char)
  | [] => none
  | [c] => if c = quote then some ([], []) else none
  | c :: d :: rest =>
    if c = quote then some ([], d :: rest)
    else if escapes && c == '\\' then
      (spellingToQuote quote escapes rest).map fun (s, rest) => (c :: d :: s, rest)
    else (spellingToQuote quote escapes (d :: rest)).map fun (s, rest) => (c :: s, rest)

/-- A basic text behind its opening quote. -/
def readBasic : Scan String := fun cs => do
  let (spelling, rest) ← spellingToQuote '"' true cs
  return (.ofList (← Escape.resolve? Escape.isPlain spelling), rest)

/-- A literal text behind its opening quote. -/
def readLiteral : Scan String := fun cs => do
  let (spelling, rest) ← spellingToQuote '\'' false cs
  if spelling.all Escape.isPlain then some (.ofList spelling, rest) else none

/-! ## Several lines -/

/-- The spelling up to three closing quotes, with the up to two quotes in front of them. -/
def spellingToQuotes (quote : Char) (escapes : Bool) : Scan (List Char)
  | [] => none
  | c :: rest =>
    if (List.replicate 5 quote).isPrefixOf (c :: rest) then some ([quote, quote], rest.drop 4)
    else if (List.replicate 4 quote).isPrefixOf (c :: rest) then some ([quote], rest.drop 3)
    else if (List.replicate 3 quote).isPrefixOf (c :: rest) then some ([], rest.drop 2)
    else if escapes && c == '\\' then
      match rest with
      | [] => none
      | d :: rest => (spellingToQuotes quote escapes rest).map fun (s, rest) => (c :: d :: s, rest)
    else (spellingToQuotes quote escapes rest).map fun (s, rest) => (c :: s, rest)

/-- Whether only blanks come before the next line break. -/
def endsLine (cs : List Char) : Bool :=
  (afterBreak? (skipBlanks cs)).isSome

/-- A list of pieces with a character in front of the first. -/
def consPiece (c : Char) : List (List Char) → List (List Char)
  | [] => [[c]]
  | piece :: pieces => (c :: piece) :: pieces

/-- The pieces of a spelling between backslashes at the ends of lines, with line feeds for line
breaks. While `joining`, blanks and line breaks are dropped. -/
def linePieces (joining : Bool) : List Char → List (List Char)
  | [] => [[]]
  | '\r' :: '\n' :: rest =>
    if joining then linePieces true rest else consPiece '\n' (linePieces false rest)
  | '\\' :: c :: rest =>
    if endsLine (c :: rest) then [] :: linePieces true (c :: rest)
    else consPiece '\\' (consPiece c (linePieces false rest))
  | c :: rest =>
    if joining && (isBlank c || c == '\n') then linePieces true rest
    else consPiece c (linePieces false rest)

/-- A spelling with line feeds for its line breaks. -/
def normalizeBreaks : List Char → List Char
  | [] => []
  | '\r' :: '\n' :: rest => '\n' :: normalizeBreaks rest
  | c :: rest => c :: normalizeBreaks rest

/-- Characters of a text of several lines. -/
def isPlainOrBreak (c : Char) : Bool :=
  c == '\n' || Escape.isPlain c

/-- A basic text of several lines behind its opening quotes. An escape ends where its line ends, so
every piece is resolved on its own. -/
def readLongBasic : Scan String := fun cs => do
  let (spelling, rest) ← spellingToQuotes '"' true (dropBreak cs)
  let pieces ← (linePieces false spelling).mapM (Escape.resolve? isPlainOrBreak)
  return (.ofList pieces.flatten, rest)

/-- A literal text of several lines behind its opening quotes. -/
def readLongLiteral : Scan String := fun cs => do
  let (spelling, rest) ← spellingToQuotes '\'' false (dropBreak cs)
  let s := normalizeBreaks spelling
  if s.all isPlainOrBreak then some (.ofList s, rest) else none

/-- A text in any of its forms. -/
def readText : Scan String
  | '"' :: '"' :: '"' :: rest => readLongBasic rest
  | '"' :: rest => readBasic rest
  | '\'' :: '\'' :: '\'' :: rest => readLongLiteral rest
  | '\'' :: rest => readLiteral rest
  | _ => none

/-! ## Keys -/

/-- Characters of keys without quotes. -/
def isBareKey (c : Char) : Bool :=
  c.isAlphanum || c == '-' || c == '_'

/-- One part of a key. -/
def readKeyPart : Scan String
  | '"' :: rest => readBasic rest
  | '\'' :: rest => readLiteral rest
  | cs => (Scan.run isBareKey cs).map fun (s, rest) => (.ofList s, rest)

/-- A key with dots: the parts before the last one, and the last one. -/
structure KeyPath where
  parents : List String
  key : String
  deriving DecidableEq, Repr

/-- Up to `limit` parts with dots between them and blanks around them. -/
def readKeyParts : Nat → Scan KeyPath
  | 0, _ => none
  | limit + 1, cs =>
    match readKeyPart (skipBlanks cs) with
    | none => none
    | some (part, rest) =>
      match skipBlanks rest with
      | '.' :: rest =>
        (readKeyParts limit rest).map fun (p, rest) => (⟨part :: p.parents, p.key⟩, rest)
      | rest => some (⟨[], part⟩, rest)

/-- The most parts that a key may have, and the most arrays and inline tables within each other. -/
def maxDepth : Nat := 79

/-- A key. -/
def readKey : Scan KeyPath :=
  readKeyParts maxDepth

end TorznabGateway.Toml
