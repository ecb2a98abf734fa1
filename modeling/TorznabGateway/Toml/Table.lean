import TorznabGateway.Json.Basic
import TorznabGateway.Named
import TorznabGateway.Toml.Quoted

/-!
# TOML tables

How the pairs and headers of a document make up tables. A table is defined once: by its header, or
by dotted keys within one table, and a key has one value. A table that exists only because a longer
header passed through it can still be defined.
-/
namespace TorznabGateway.Toml

/-- How a table came to be. -/
inductive Origin where
  /-- By a header of its own, or as the document or an element of an array. -/
  | defined
  /-- As a part of the path of a header. -/
  | passed
  /-- As a part of a dotted key. -/
  | dotted
  deriving DecidableEq, Repr

/-- What stands under a key. -/
inductive Node where
  | value (v : Json)
  | table (origin : Origin) (entries : List (String × Node))
  | tables (elements : List (List (String × Node)))
  deriving Inhabited

/-- The content of a table. -/
abbrev Entries := Named Node

/-- A key with its value. -/
structure Pair where
  path : KeyPath
  value : Json

mutual

/-- A node as a value. -/
def Node.toJson : Node → Json
  | .value v => v
  | .table _ entries => .object (membersOf entries)
  | .tables elements => .array (elementsOf elements)

/-- The members of a table. -/
def membersOf : List (String × Node) → List (String × Json)
  | [] => []
  | (key, node) :: rest => (key, node.toJson) :: membersOf rest

/-- The elements of an array of tables. -/
def elementsOf : List (List (String × Node)) → List Json
  | [] => []
  | entries :: rest => .object (membersOf entries) :: elementsOf rest

end

namespace Entries

/-- Change the table at the end of a path. Tables that are missing on the way are made, and of an
array of tables the last one is taken. A dotted key does not reach into a defined table. -/
def update (dotted : Bool) (change : Origin → Entries → Option Entries) :
    Origin → List String → Entries → Option Entries
  | origin, [], t => change origin t
  | _, key :: path, t =>
    match Named.get? key t with
    | none =>
      let origin := if dotted then Origin.dotted else .passed
      (update dotted change origin path []).map fun sub => Named.put key (.table origin sub) t
    | some (.value _) => none
    | some (.tables elements) =>
      match elements.getLast? with
      | none => none
      | some last =>
        (update dotted change .defined path last).map fun sub =>
          Named.put key (.tables (elements.dropLast ++ [sub])) t
    | some (.table origin sub) =>
      if dotted && origin = .defined then none
      else (update dotted change origin path sub).map fun sub => Named.put key (.table origin sub) t

/-- Add a value to a table that was made by dotted keys, or is reached without any. -/
def addValue (isDotted : Bool) (key : String) (v : Json) (origin : Origin) (t : Entries) :
    Option Entries :=
  if isDotted != (origin == .dotted) || (Named.get? key t).isSome then none
  else some (Named.put key (.value v) t)

/-- Add a pair to a defined table. -/
def addPair (t : Entries) (p : Pair) : Option Entries :=
  update true (addValue (!p.path.parents.isEmpty) p.path.key p.value) .defined p.path.parents t

/-- Add pairs to a defined table. -/
def addPairs (t : Entries) (pairs : List Pair) : Option Entries :=
  pairs.foldlM addPair t

end Entries

/-- A header. -/
inductive Header where
  | table (path : KeyPath)
  /-- The next element of an array of tables. -/
  | element (path : KeyPath)

/-- A header and the pairs behind it. -/
structure Section where
  header : Header
  pairs : List Pair

namespace Entries

/-- Define a table with pairs; it may be there already if a header passed through it. -/
def defineTable (key : String) (pairs : List Pair) (t : Entries) : Option Entries :=
  match Named.get? key t with
  | none => (addPairs [] pairs).map fun sub => Named.put key (.table .defined sub) t
  | some (.table .passed sub) =>
    (addPairs sub pairs).map fun sub => Named.put key (.table .defined sub) t
  | some _ => none

/-- Append a table with pairs to an array of tables, which is made if it is missing. -/
def appendElement (key : String) (pairs : List Pair) (t : Entries) : Option Entries :=
  match Named.get? key t with
  | none => (addPairs [] pairs).map fun sub => Named.put key (.tables [sub]) t
  | some (.tables elements) =>
    (addPairs [] pairs).map fun sub => Named.put key (.tables (elements ++ [sub])) t
  | some _ => none

/-- Add a section to the table of the document. -/
def addSection (t : Entries) (s : Section) : Option Entries :=
  match s.header with
  | .table path =>
    update false (fun _ t => defineTable path.key s.pairs t) .defined path.parents t
  | .element path =>
    update false (fun _ t => appendElement path.key s.pairs t) .defined path.parents t

end Entries

end TorznabGateway.Toml
