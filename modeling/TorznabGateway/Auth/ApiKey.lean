import TorznabGateway.Auth.Secret
import TorznabGateway.Metrics

/-!
# Caller authentication

A caller is authenticated by a key equal to the display form of the shared secret.
-/
namespace TorznabGateway

/-- Why authentication failed. -/
inductive AuthError where
  | notAuthenticated
  | invalidCredentials
  deriving DecidableEq, Repr

def AuthError.message : AuthError → String
  | .notAuthenticated => "Not authenticated"
  | .invalidCredentials => "Invalid credentials"

namespace Auth

/-- Whether a key is the current API key. -/
def checkKey (secret : SharedSecret) (candidate : String) : Bool :=
  candidate == secret.display

/-- Check an optional key. An empty key counts as a missing one. -/
def authenticate (secret : SharedSecret) (candidate : Option String) :
    Except AuthError Unit × List Observation :=
  match candidate with
  | none => (.error .notAuthenticated, [.authFailure .missing])
  | some key =>
    if key.isEmpty then (.error .notAuthenticated, [.authFailure .missing])
    else if checkKey secret key then (.ok (), [])
    else (.error .invalidCredentials, [.authFailure .invalid])

end Auth

end TorznabGateway
