import TorznabGateway.Json.Record
import TorznabGateway.Net.Ip
import TorznabGateway.Text.WhiteSpace

/-!
# Configuration

The settings of the gateway with their defaults, how they are read from a value and written as one,
and the form of them that may be shown, in which secrets are replaced by whether they are set.
-/
namespace TorznabGateway

open Text

/-- Where the shared secret comes from. With neither setting it is random. -/
structure AuthConfig where
  apiKey : Option String := none
  passphrase : Option String := none
  deriving DecidableEq, Repr

/-- Where the gateway listens, and the URL by which clients reach it. -/
structure ServerConfig where
  host : IpAddress := .any
  port : Nat := 8080
  publicUrl : Option String := none
  deriving DecidableEq, Repr

/-- Capacities of the two response caches and lives of their entries. -/
structure CacheConfig where
  searchCapacity : Nat := 300
  searchTtlSecs : Nat := 60
  statusCapacity : Nat := 10
  statusTtlSecs : Nat := 180
  deriving DecidableEq, Repr

/-- How searches are run. -/
structure SearchConfig where
  maxPages : Nat := 3
  channelCapacity : Nat := 16
  deriving DecidableEq, Repr

/-- An indexer behind the Jackett server. -/
structure JackettIndexerConfig where
  /-- The name by which clients select it. -/
  name : String
  /-- Jackett's name for it, if that is another. -/
  id : Option String := none
  enabled : Bool := true
  deriving DecidableEq, Repr

/-- Jackett's name for an indexer. -/
def JackettIndexerConfig.jackettId (i : JackettIndexerConfig) : String :=
  i.id.getD i.name

/-- The Jackett server. -/
structure JackettConfig where
  url : String
  apiKey : String
  timeoutSecs : Nat := 30
  indexers : List JackettIndexerConfig := []
  deriving DecidableEq, Repr

structure Config where
  auth : AuthConfig := {}
  server : ServerConfig := {}
  cache : CacheConfig := {}
  search : SearchConfig := {}
  jackett : Option JackettConfig := none
  /-- The indexers that each alias stands for. The aliases are a map, which is listed in an order of
  its own wherever it is read. -/
  aliases : List (String × List String) := []
  deriving DecidableEq, Repr

namespace ServerConfig

/-- The base of links handed to clients, without slashes at its end. -/
def publicBase (s : ServerConfig) : String :=
  match s.publicUrl with
  | some url => trimEndOf '/' url
  | none =>
    let host := if s.host.isUnspecified then "localhost" else s.host.render
    "http://" ++ host ++ ":" ++ Decimal.render s.port

end ServerConfig

/-! ## Reading -/

namespace Config

open Json

/-- Unsigned numbers of 16, 32 and 64 bits. -/
def u16 : Json → Option Nat := toNatUpTo? Decimal.max16

@[inherit_doc u16]
def u32 : Json → Option Nat := toNatUpTo? Decimal.max32

@[inherit_doc u16]
def u64 : Json → Option Nat := toNatUpTo? Decimal.max64

def readAuth? (e : Excess) (v : Json) : Option AuthConfig := do
  let r ← Record.ofJson? e ["api_key", "passphrase"] v
  let apiKey ← r.optionalOrCut "api_key" toText?
  let passphrase ← r.optionalOrCut "passphrase" toText?
  return { apiKey, passphrase }

def readServer? (e : Excess) (v : Json) : Option ServerConfig := do
  let r ← Record.ofJson? e ["host", "port", "public_url"] v
  let host ← r.withDefault "host" (fun v => (toText? v).bind IpAddress.parse?) .any
  let port ← r.withDefault "port" u16 8080
  let publicUrl ← r.optionalOrCut "public_url" toText?
  return { host, port, publicUrl }

def readCache? (e : Excess) (v : Json) : Option CacheConfig := do
  let r ← Record.ofJson? e
    ["search_capacity", "search_ttl_secs", "status_capacity", "status_ttl_secs"] v
  let searchCapacity ← r.withDefault "search_capacity" u64 300
  let searchTtlSecs ← r.withDefault "search_ttl_secs" u64 60
  let statusCapacity ← r.withDefault "status_capacity" u64 10
  let statusTtlSecs ← r.withDefault "status_ttl_secs" u64 180
  return { searchCapacity, searchTtlSecs, statusCapacity, statusTtlSecs }

def readSearch? (e : Excess) (v : Json) : Option SearchConfig := do
  let r ← Record.ofJson? e ["max_pages", "channel_capacity"] v
  let maxPages ← r.withDefault "max_pages" u32 3
  let channelCapacity ← r.withDefault "channel_capacity" u64 16
  return { maxPages, channelCapacity }

def readJackettIndexer? (e : Excess) (v : Json) : Option JackettIndexerConfig := do
  let r ← Record.ofJson? e ["name", "id", "enabled"] v
  let name ← r.required "name" toText?
  let id ← r.optionalOrCut "id" toText?
  let enabled ← r.withDefault "enabled" toBool? true
  return { name, id, enabled }

def readJackett? (e : Excess) (v : Json) : Option JackettConfig := do
  let r ← Record.ofJson? e ["url", "api_key", "timeout_secs", "indexers"] v
  let url ← r.required "url" toText?
  let apiKey ← r.required "api_key" toText?
  let timeoutSecs ← r.withDefault "timeout_secs" u32 30
  let indexers ← r.withDefault "indexers" (readList? (readJackettIndexer? e)) []
  return { url, apiKey, timeoutSecs, indexers }

/-- Read named lists of texts; of a name that is repeated the last list counts. -/
def readAliases? : Json → Option (List (String × List String))
  | .object members =>
    let names := (members.map (·.1)).eraseDups
    names.mapM fun name => do
      let targets ← readList? toText? ((lookup? name members).getD .null)
      return (name, targets)
  | _ => none

/-- Read a configuration; `e` says whether sections written as lists may be too long. -/
def ofJson? (e : Excess) (v : Json) : Option Config := do
  let r ← Record.ofJson? e ["auth", "server", "cache", "search", "jackett", "aliases"] v
  let auth ← r.withDefault "auth" (readAuth? e) {}
  let server ← r.withDefault "server" (readServer? e) {}
  let cache ← r.withDefault "cache" (readCache? e) {}
  let search ← r.withDefault "search" (readSearch? e) {}
  let jackett ← r.optionalOrCut "jackett" (readJackett? e)
  let aliases ← r.withDefault "aliases" readAliases? []
  return { auth, server, cache, search, jackett, aliases }

/-! ## Writing -/

/-- A text, or `null`. -/
def textOrNull : Option String → Json
  | some s => .text s
  | none => .null

def serverJson (s : ServerConfig) : Json :=
  .object [("host", .text s.host.render), ("port", ofNat s.port),
    ("public_url", textOrNull s.publicUrl)]

def cacheJson (c : CacheConfig) : Json :=
  .object [("search_capacity", ofNat c.searchCapacity), ("search_ttl_secs", ofNat c.searchTtlSecs),
    ("status_capacity", ofNat c.statusCapacity), ("status_ttl_secs", ofNat c.statusTtlSecs)]

def searchJson (s : SearchConfig) : Json :=
  .object [("max_pages", ofNat s.maxPages), ("channel_capacity", ofNat s.channelCapacity)]

def aliasesJson (aliases : List (String × List String)) : Json :=
  .object (aliases.map fun (name, targets) => (name, .array (targets.map .text)))

def jackettJson (j : JackettConfig) : Json :=
  .object [("url", .text j.url), ("api_key", .text j.apiKey), ("timeout_secs", ofNat j.timeoutSecs),
    ("indexers", .array (j.indexers.map fun i => .object
      [("name", .text i.name), ("id", textOrNull i.id), ("enabled", .boolean i.enabled)]))]

/-- The whole configuration, secrets included. -/
def toJson (c : Config) : Json :=
  .object
    [("auth", .object [("api_key", textOrNull c.auth.apiKey),
        ("passphrase", textOrNull c.auth.passphrase)]),
     ("server", serverJson c.server), ("cache", cacheJson c.cache),
     ("search", searchJson c.search), ("jackett", (c.jackett.map jackettJson).getD .null),
     ("aliases", aliasesJson c.aliases)]

/-- Whether a secret is set to something. -/
def isConfigured : Option String → Bool
  | some s => !s.isEmpty
  | none => false

/-- The configuration as it may be shown. -/
def sanitized (c : Config) : Json :=
  .object
    ([("auth", .object [("api_key_configured", .boolean (isConfigured c.auth.apiKey)),
        ("passphrase_configured", .boolean (isConfigured c.auth.passphrase))]),
      ("server", serverJson c.server), ("cache", cacheJson c.cache),
      ("search", searchJson c.search)]
    ++ optionMember "jackett" (c.jackett.map fun j => .object
        [("url", .text j.url), ("api_key_configured", .boolean (!j.apiKey.isEmpty)),
         ("timeout_secs", ofNat j.timeoutSecs),
         ("indexers", .array (j.indexers.map fun i => .text i.name))])
    ++ [("aliases", aliasesJson c.aliases)])

end Config

end TorznabGateway
