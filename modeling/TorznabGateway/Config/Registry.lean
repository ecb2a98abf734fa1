import TorznabGateway.Config.Basic
import TorznabGateway.Indexer.Registry
import TorznabGateway.Jackett.Server
import TorznabGateway.Net.Url.Parser

/-!
# The configured indexers

The registry of a configuration: one indexer for every enabled entry of the Jackett section, and the
aliases.
-/
namespace TorznabGateway

open Text

/-- The indexer of an entry. -/
def JackettConfig.source (j : JackettConfig) (i : JackettIndexerConfig) : Jackett.Source where
  name := i.name
  endpoint := ⟨trimEndOf '/' j.url, j.apiKey, i.jackettId⟩

namespace Config

/-- The enabled indexers in their order. -/
def sources (c : Config) : List Jackett.Source :=
  match c.jackett with
  | some j => (j.indexers.filter (·.enabled)).map j.source
  | none => []

/-- The registry of the indexers and aliases, as they are reached over a network, with a reader for
their links. -/
def registry (c : Config) (network : Jackett.Network)
    (read : Url.Reader := Url.parse? Url.asciiDomain?) : Registry :=
  let named := c.aliases.foldl (fun r (name, targets) => r.addAlias name targets) {}
  c.sources.foldl (fun r s => r.addIndexer (s.toIndexer read network)) named

end Config

end TorznabGateway
