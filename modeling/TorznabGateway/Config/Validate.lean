import TorznabGateway.Config.Basic
import TorznabGateway.Text.AsciiCase
import TorznabGateway.Text.Lowercase

/-!
# Checking a configuration

What must hold of settings beyond their types. Names of indexers and aliases are compared in their
lower-case form; an alias may only name indexers that are enabled.
-/
namespace TorznabGateway

open Text

/-- What a name is for. -/
inductive NameKind where
  | indexer
  | groupAlias
  deriving DecidableEq, Repr

def NameKind.word : NameKind → String
  | .indexer => "indexer"
  | .groupAlias => "alias"

/-- What is wrong with a configuration. -/
inductive ConfigFault where
  | zeroPort
  | publicUrlScheme (url : String)
  | zeroCapacity
  | zeroTtl
  | zeroPages
  | zeroChannel
  | emptyJackettUrl
  | zeroTimeout
  | emptyName (kind : NameKind)
  | delimiterInName (kind : NameKind) (name : String)
  | reservedName (kind : NameKind) (name : String)
  | duplicateIndexer (name : String)
  | shadowingAlias (name : String)
  | emptyAlias (name : String)
  | unknownTarget (name target : String)
  | disabledTarget (name target : String)
  deriving DecidableEq, Repr

def ConfigFault.message : ConfigFault → String
  | .zeroPort => "server.port must be non-zero"
  | .publicUrlScheme url =>
    "server.public_url must start with http:// or https://, got '" ++ url ++ "'"
  | .zeroCapacity => "cache capacities must be greater than zero"
  | .zeroTtl => "cache TTLs must be greater than zero"
  | .zeroPages => "search.max_pages must be greater than zero"
  | .zeroChannel => "search.channel_capacity must be greater than zero"
  | .emptyJackettUrl => "jackett.url must not be empty"
  | .zeroTimeout => "jackett.timeout_secs must be greater than zero"
  | .emptyName kind => kind.word ++ " name must not be empty"
  | .delimiterInName kind name => kind.word ++ " name '" ++ name ++ "' must not contain ',' or '/'"
  | .reservedName kind name =>
    "'" ++ name ++ "' is reserved and cannot be used as " ++ kind.word ++ " name"
  | .duplicateIndexer name => "duplicate indexer name '" ++ name ++ "'"
  | .shadowingAlias name => "alias '" ++ name ++ "' shadows an indexer of the same name"
  | .emptyAlias name => "alias '" ++ name ++ "' has no indexers"
  | .unknownTarget name target =>
    "alias '" ++ name ++ "' references unknown indexer '" ++ target ++ "'"
  | .disabledTarget name target =>
    "alias '" ++ name ++ "' references disabled indexer '" ++ target ++ "'"

/-- Why there is no configuration. -/
inductive ConfigError where
  | fileNotFound (path : String)
  /-- The text cannot be read as a configuration. -/
  | unreadable
  | invalid (fault : ConfigFault)
  deriving DecidableEq, Repr

def ConfigError.message : ConfigError → String
  | .fileNotFound path => "Configuration file not found: " ++ path
  | .unreadable => "Failed to parse configuration"
  | .invalid fault => "Configuration validation failed: " ++ fault.message

namespace Config

/-- Fail with a fault unless a condition holds. -/
def require (condition : Bool) (fault : ConfigFault) : Except ConfigFault Unit :=
  if condition then .ok () else .error fault

/-- Check the name of an indexer or alias. -/
def validateName (kind : NameKind) (name : String) : Except ConfigFault Unit := do
  require (nonBlank? name).isSome (.emptyName kind)
  require (!(name.toList.contains ',' || name.toList.contains '/')) (.delimiterInName kind name)
  require (!eqIgnoreAsciiCase name "all") (.reservedName kind name)

/-- Whether a URL starts like one of the web. -/
def hasWebScheme (url : String) : Bool :=
  "http://".toList.isPrefixOf url.toList || "https://".toList.isPrefixOf url.toList

/-- Check the settings that stand for themselves. -/
def validateSettings (c : Config) : Except ConfigFault Unit := do
  require (c.server.port != 0) .zeroPort
  match c.server.publicUrl with
  | some url => require (hasWebScheme url) (.publicUrlScheme url)
  | none => .ok ()
  require (c.cache.searchCapacity != 0 && c.cache.statusCapacity != 0) .zeroCapacity
  require (c.cache.searchTtlSecs != 0 && c.cache.statusTtlSecs != 0) .zeroTtl
  require (c.search.maxPages != 0) .zeroPages
  require (c.search.channelCapacity != 0) .zeroChannel

/-- Check the names of indexers, none of which may equal one of `earlier`. -/
def validateIndexers (earlier : List String) : List JackettIndexerConfig → Except ConfigFault Unit
  | [] => .ok ()
  | i :: rest => do
    validateName .indexer i.name
    require (!earlier.contains (lowercase i.name)) (.duplicateIndexer i.name)
    validateIndexers (lowercase i.name :: earlier) rest

/-- Check the Jackett section. -/
def validateJackett (j : JackettConfig) : Except ConfigFault Unit := do
  require (!j.url.isEmpty) .emptyJackettUrl
  require (j.timeoutSecs != 0) .zeroTimeout
  validateIndexers [] j.indexers

/-- The indexers that are configured. -/
def jackettIndexers (c : Config) : List JackettIndexerConfig :=
  match c.jackett with
  | some j => j.indexers
  | none => []

/-- The lower-case forms of the names of all configured indexers. -/
def indexerKeys (c : Config) : List String :=
  c.jackettIndexers.map fun i => lowercase i.name

/-- The lower-case forms of the names of disabled indexers. -/
def disabledKeys (c : Config) : List String :=
  (c.jackettIndexers.filter (!·.enabled)).map fun i => lowercase i.name

/-- Check one target of an alias. -/
def validateTarget (c : Config) (name target : String) : Except ConfigFault Unit := do
  require (c.indexerKeys.contains (lowercase target)) (.unknownTarget name target)
  require (!c.disabledKeys.contains (lowercase target)) (.disabledTarget name target)

/-- Check an alias. -/
def validateAlias (c : Config) (a : String × List String) : Except ConfigFault Unit := do
  validateName .groupAlias a.1
  require (!c.indexerKeys.contains (lowercase a.1)) (.shadowingAlias a.1)
  require (!a.2.isEmpty) (.emptyAlias a.1)
  a.2.forM (c.validateTarget a.1)

/-- Check a configuration. -/
def validate (c : Config) : Except ConfigFault Unit := do
  c.validateSettings
  match c.jackett with
  | some j => validateJackett j
  | none => .ok ()
  c.aliases.forM c.validateAlias

end Config

end TorznabGateway
