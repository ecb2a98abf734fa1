import TorznabGateway.Text.Decimal
import TorznabGateway.Xml

/-!
# Torznab errors

What a caller is told when a request cannot be answered: a code, a description, and the status of
the HTTP answer.
-/
namespace TorznabGateway

open Text

/-- An error that ends a request. -/
inductive TorznabError where
  /-- The key is missing or wrong; the two are not told apart. -/
  | insufficientPrivileges
  | incorrectParameter (detail : String)
  | functionNotAvailable (function : String)
  | unknown (detail : String)
  | custom (code : Nat) (description : String) (status : Nat)
  deriving DecidableEq, Repr

namespace TorznabError

def code : TorznabError → Nat
  | .insufficientPrivileges => 102
  | .incorrectParameter _ => 201
  | .functionNotAvailable _ => 203
  | .unknown _ => 900
  | .custom code _ _ => code

/-- The status of the HTTP answer. -/
def status : TorznabError → Nat
  | .insufficientPrivileges => 401
  | .incorrectParameter _ => 400
  | .functionNotAvailable _ => 400
  | .unknown _ => 500
  | .custom _ _ status => status

def description : TorznabError → String
  | .insufficientPrivileges => "Insufficient privileges"
  | .incorrectParameter detail => "Incorrect parameter: " ++ detail
  | .functionNotAvailable function => "Function not available: " ++ function
  | .unknown detail => "Unknown error: " ++ detail
  | .custom _ description _ => description

/-- The error in one line. -/
def display (e : TorznabError) : String :=
  "torznab error " ++ Decimal.render e.code ++ ": " ++ e.description

/-- The events of the error document. -/
def events (e : TorznabError) : List Xml.Event :=
  [.declaration,
   .empty "error" [("code", Decimal.render e.code), ("description", e.description)]]

/-- The error document. -/
def xml (e : TorznabError) : String :=
  Xml.render e.events

end TorznabError

end TorznabGateway
