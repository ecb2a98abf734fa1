import TorznabGateway.Indexer.Basic
import TorznabGateway.Torznab.FeedDocument

/-!
# Scripted indexers

Indexers that answer from a script: fixed pages and errors, a delay before each of them, and a
table of files. They stand in for real ones wherever the gateway itself is looked at.
-/
namespace TorznabGateway

/-- What a scripted indexer does. -/
structure Script where
  name : String
  capabilities : Capabilities := .standard
  /-- The pages of every search, in order; an error ends the search. -/
  steps : List PageStep := []
  /-- The error with which every search fails to start. -/
  searchError : Option IndexerError := none
  /-- The error of every health check. -/
  checkError : Option IndexerError := none
  /-- Milliseconds before every step. -/
  delay : Nat := 0
  /-- The files by their links. -/
  files : List (String × List UInt8) := []

namespace Script

/-- Steps one delay after another, the first one delay after `time`. -/
def timed (delay time : Nat) : List PageStep → List TimedStep
  | [] => []
  | s :: rest => ⟨time + delay, s⟩ :: timed delay (time + delay) rest

/-- The answer to a search. -/
def search (s : Script) : SearchAnswer :=
  match s.searchError with
  | some e => .error e
  | none => .ok (timed s.delay 0 s.steps)

/-- The file of a link; a link that is not in the table is not found. -/
def download (s : Script) (link : String) : Except IndexerError Download :=
  match s.files.find? (·.1 == link) with
  | some (_, body) =>
    .ok { contentType := some Feed.torrentType, contentLength := some body.length, body }
  | none => .error (.status 404 ("no such file: " ++ link))

/-- The answer to a health check. -/
def check (s : Script) : Except IndexerError Unit :=
  match s.checkError with
  | some e => .error e
  | none => .ok ()

/-- The indexer that follows a script at all times. -/
def toIndexer (s : Script) : Indexer where
  name := s.name
  capabilities := s.capabilities
  search _ _ := s.search
  download _ := s.download
  check _ := s.check

end Script

end TorznabGateway
