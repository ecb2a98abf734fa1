import TorznabGateway.Text.Decimal

/-!
# Indexer errors

What can go wrong with one indexer.
-/
namespace TorznabGateway

open Text

inductive IndexerError where
  | login (indexer message : String)
  | transport (message : String)
  | timeout
  | status (code : Nat) (body : String)
  | parse (message : String)
  | unsupported (message : String)
  deriving DecidableEq, Repr

namespace IndexerError

/-- The label of an error among the counters. -/
def kind : IndexerError → String
  | .login _ _ => "login"
  | .transport _ => "transport"
  | .timeout => "timeout"
  | .status _ _ => "status"
  | .parse _ => "parse"
  | .unsupported _ => "unsupported"

def isLogin : IndexerError → Bool
  | .login _ _ => true
  | _ => false

def message : IndexerError → String
  | .login indexer message => "Login to " ++ indexer ++ " failed: " ++ message
  | .transport message => "Transport error: " ++ message
  | .timeout => "Request timeout"
  | .status code body => "Upstream returned HTTP " ++ Decimal.render code ++ ": " ++ body
  | .parse message => "Failed to parse response: " ++ message
  | .unsupported message => "Not supported: " ++ message

end IndexerError

end TorznabGateway
