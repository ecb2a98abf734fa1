import TorznabGateway.Indexer.Capabilities
import TorznabGateway.Indexer.Error

/-!
# Indexers

What the gateway knows of an indexer: its name, its capabilities, and how it answers a search, a
download and a health check. Answers may change with the time at which they are asked for. A search
that starts gives pages one after another; each arrives some time after the start.
-/
namespace TorznabGateway

/-- One step of a search: a page of items, or the error that ends it. -/
abbrev PageStep := Except IndexerError (List Item)

/-- A step and the milliseconds from the start of the search to its arrival. -/
structure TimedStep where
  after : Nat
  step : PageStep
  deriving Repr

/-- How an indexer answers a search: it cannot start, or gives pages. -/
abbrev SearchAnswer := Except IndexerError (List TimedStep)

/-- A file as an indexer hands it over. -/
structure Download where
  contentType : Option String
  contentLength : Option Nat
  body : List UInt8
  /-- The error after which no more of the body came. -/
  brokenBy : Option IndexerError := none
  deriving DecidableEq, Repr

/-- A torrent indexing source. The first argument of each question is the time at which it is
asked, in milliseconds. -/
structure Indexer where
  /-- The name by which clients select the indexer. -/
  name : String
  capabilities : Capabilities
  search : Nat → SearchQuery → SearchAnswer
  /-- Fetch a file by the link that the indexer gave for it. -/
  download : Nat → String → Except IndexerError Download
  check : Nat → Except IndexerError Unit

end TorznabGateway
