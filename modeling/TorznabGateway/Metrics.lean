/-!
# Observations

What the gateway counts while it works. An operation returns the list of what it observed, in the
order it happened, and whoever runs it adds the counts up.
-/
namespace TorznabGateway

/-- Why a caller was turned away. -/
inductive AuthFailure where
  | missing
  | invalid
  deriving DecidableEq, Repr

/-- Why a download token was rejected. -/
inductive TokenRejection where
  | malformed
  | invalidSignature
  deriving DecidableEq, Repr

/-- How an aggregated search ended. -/
inductive SearchEnding where
  | success
  | someFailed
  | allFailed
  deriving DecidableEq, Repr

/-- How an item compares to what was seen before. -/
inductive ItemState where
  | new
  | updated
  | unchanged
  deriving DecidableEq, Repr

/-- The name of a state, in answers and counters. -/
def ItemState.name : ItemState → String
  | .new => "new"
  | .updated => "updated"
  | .unchanged => "unchanged"

/-- The name of an ending among the counters. -/
def SearchEnding.name : SearchEnding → String
  | .success => "success"
  | .someFailed => "partial"
  | .allFailed => "failed"

/-- One counted event. -/
inductive Observation where
  /-- A caller failed to authenticate. -/
  | authFailure (reason : AuthFailure)
  /-- A download token was issued. -/
  | tokenIssued
  /-- A download token was rejected. -/
  | tokenRejected (reason : TokenRejection)
  /-- A source failed during a search, with an error of some kind. -/
  | sourceFailed (source kind : String)
  /-- A source gave so many accepted items to a search. -/
  | sourceItems (source : String) (count : Nat)
  /-- An item was compared with earlier sightings. -/
  | classified (state : ItemState)
  /-- A search ended. -/
  | searched (ending : SearchEnding)
  deriving DecidableEq, Repr

end TorznabGateway
