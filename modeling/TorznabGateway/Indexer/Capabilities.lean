import TorznabGateway.Search.Query

/-!
# Capabilities

What an indexer can do: its search modes with their parameters, its categories and its limits.
Merging gives the union over several indexers: a mode is available if any offers it, parameters
are collected in the order in which they are first seen, modes stand in the order of
`SearchFunction.all`, categories in the order of their numbers, and the smallest maximum counts.
-/
namespace TorznabGateway

/-- A search function as an indexer offers it. -/
structure SearchMode where
  function : SearchFunction
  available : Bool
  parameters : List String
  deriving DecidableEq, Repr, Inhabited

structure Category where
  id : Nat
  name : String
  deriving DecidableEq, Repr, Inhabited

/-- How many results can be asked for, and how many come without asking. -/
structure Limits where
  max : Nat
  default : Nat
  deriving DecidableEq, Repr, Inhabited

/-- The limits of the gateway itself. -/
def Limits.own : Limits :=
  ⟨SearchQuery.maxLimit, SearchQuery.defaultLimit⟩

structure Capabilities where
  modes : List SearchMode
  categories : List Category
  limits : Limits
  deriving DecidableEq, Repr, Inhabited

namespace Capabilities

/-- Every mode with its usual parameters, and the top-level categories. -/
def standard : Capabilities where
  modes :=
    [⟨.search, true, ["q"]⟩,
     ⟨.tvSearch, true, ["q", "season", "ep", "tvdbid", "imdbid"]⟩,
     ⟨.movie, true, ["q", "imdbid", "tmdbid"]⟩,
     ⟨.music, true, ["q"]⟩,
     ⟨.book, true, ["q"]⟩]
  categories :=
    [⟨1000, "Console"⟩, ⟨2000, "Movies"⟩, ⟨3000, "Audio"⟩, ⟨4000, "PC"⟩, ⟨5000, "TV"⟩,
     ⟨6000, "XXX"⟩, ⟨7000, "Books"⟩, ⟨8000, "Other"⟩]
  limits := .own

/-- Plain text search and no categories. -/
def searchOnly : Capabilities where
  modes := [⟨.search, true, ["q"]⟩]
  categories := []
  limits := .own

/-- Whether a function is offered. -/
def supports (c : Capabilities) (f : SearchFunction) : Bool :=
  c.modes.any fun m => m.function == f && m.available

/-! ## Merging -/

/-- Add the parameters that are not there yet. -/
def addParameters (known new : List String) : List String :=
  new.foldl (fun ps p => if ps.contains p then ps else ps ++ [p]) known

/-- Add a mode of the same function. -/
def addMode (m n : SearchMode) : SearchMode :=
  { m with available := m.available || n.available
           parameters := addParameters m.parameters n.parameters }

/-- The union of modes of one function. -/
def mergeModes : List SearchMode → Option SearchMode
  | [] => none
  | m :: ms => some (ms.foldl addMode m)

/-- Insert a category into an ascending list; of two with one number the earlier stays. -/
def insertCategory (cs : List Category) (c : Category) : List Category :=
  match cs with
  | [] => [c]
  | d :: ds =>
    if c.id < d.id then c :: d :: ds
    else if c.id = d.id then d :: ds
    else d :: insertCategory ds c

/-- The union of several capabilities. -/
def merge (cs : List Capabilities) : Capabilities :=
  let modes := cs.flatMap (·.modes)
  let max := cs.foldl (fun m c => min m c.limits.max) Limits.own.max
  { modes := SearchFunction.all.filterMap fun f => mergeModes (modes.filter (·.function == f))
    categories := (cs.flatMap (·.categories)).foldl insertCategory []
    limits := ⟨max, min Limits.own.default max⟩ }

/-- Capabilities as an object. -/
def toJson (c : Capabilities) : Json :=
  .object
    [("search_modes", .array (c.modes.map fun m => .object
        [("key", .text m.function.name), ("available", .boolean m.available),
         ("supported_params", .array (m.parameters.map .text))])),
     ("categories", .array (c.categories.map fun c => .object
        [("id", Json.ofNat c.id), ("name", .text c.name)])),
     ("limits", .object
        [("max", Json.ofNat c.limits.max), ("default", Json.ofNat c.limits.default)])]

end Capabilities

end TorznabGateway
