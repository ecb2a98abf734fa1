import TorznabGateway.Config.Environment
import TorznabGateway.Config.Validate
import TorznabGateway.Toml.Document

/-!
# Loading a configuration

A configuration is written in TOML. The one in a file can be changed by environment variables.
-/
namespace TorznabGateway.Config

/-- The configuration that a document writes. -/
def ofToml (document : String) : Except ConfigError Config :=
  match (Toml.parse? document).bind (ofJson? .ignored) with
  | some c => .ok c
  | none => .error .unreadable

/-- The configuration that a document writes, changed by environment variables. -/
def ofLayers (document : String) (env : List (String × String)) :
    Except ConfigError Config :=
  match Toml.parse? document with
  | none => .error .unreadable
  | some written =>
    match ofJson? .ignored (Environment.apply written env) with
    | some c => .ok c
    | none => .error .unreadable

/-- Load the file at a path; `content` is what it holds, if there is such a file. -/
def load (path : String) (content : Option String) (env : List (String × String)) :
    Except ConfigError Config :=
  match content with
  | none => .error (.fileNotFound path)
  | some document => ofLayers document env

end TorznabGateway.Config
