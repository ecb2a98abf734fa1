import TorznabGateway.Indexer.Basic
import TorznabGateway.Text.AsciiCase

/-!
# Selecting indexers

The indexers of the gateway in their order, and aliases for groups of them. A selector is a comma
list of names and aliases, or `all`. Names match up to ASCII case and before aliases, aliases in
their lower-case form; an indexer that is selected twice keeps its first place. Nothing in a
selector is skipped: a part that matches nothing is an error.
-/
namespace TorznabGateway

open Text

/-- Why a selector selects nothing. -/
inductive ResolveError where
  | unknownIndex (name : String)
  | empty
  deriving DecidableEq, Repr

def ResolveError.message : ResolveError → String
  | .unknownIndex name => "Unknown index: " ++ name
  | .empty => "No indexes selected"

/-- The indexers, and the targets of each alias under its lower-case form. Of aliases with one form
the first in the list counts. -/
structure Registry where
  indexers : List Indexer := []
  aliases : List (String × List String) := []

namespace Registry

def addIndexer (r : Registry) (i : Indexer) : Registry :=
  { r with indexers := r.indexers ++ [i] }

/-- Define an alias, in place of an earlier one with the same lower-case form. -/
def addAlias (r : Registry) (name : String) (targets : List String) : Registry :=
  { r with aliases := (lowercase name, targets) :: r.aliases }

/-- The first indexer with a name, up to ASCII case. -/
def find? (r : Registry) (name : String) : Option Indexer :=
  r.indexers.find? fun i => eqIgnoreAsciiCase i.name name

/-- The targets of an alias. -/
def targets? (r : Registry) (name : String) : Option (List String) :=
  (r.aliases.find? fun a => a.1 == lowercase name).map (·.2)

/-- The first indexer with a name, which must exist. -/
def findTarget (r : Registry) (name : String) : Except ResolveError Indexer :=
  match r.find? name with
  | some i => .ok i
  | none => .error (.unknownIndex name)

/-- The indexers that one part of a selector names. -/
def expand (r : Registry) (part : String) : Except ResolveError (List Indexer) :=
  if eqIgnoreAsciiCase part "all" then .ok r.indexers
  else match r.find? part with
    | some i => .ok [i]
    | none =>
      match r.targets? part with
      | some targets => targets.mapM r.findTarget
      | none => .error (.unknownIndex part)

/-- Keep the first indexer of every name. -/
def distinct (found : List Indexer) : List Indexer :=
  found.foldl (fun out i => if out.any (·.name == i.name) then out else out ++ [i]) []

/-- The indexers that a selector names, each once, in the order of the selector. -/
def resolve (r : Registry) (selector : String) : Except ResolveError (List Indexer) := do
  let groups ← (commaParts selector).mapM r.expand
  let found := distinct groups.flatten
  if found.isEmpty then .error .empty else .ok found

end Registry

end TorznabGateway
