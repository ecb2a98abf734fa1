import TorznabGateway.Digest.Sha1
import TorznabGateway.Text.Decimal
import TorznabGateway.Text.Hex
import TorznabGateway.Text.Utf8

/-!
# The shared secret

One secret authenticates callers and signs download tokens. It is the configured API key, else the
first sixteen bytes of the SHA-1 digest of the passphrase, else sixteen random bytes.
-/
namespace TorznabGateway

open Text

/-- Where a secret came from, in the order of priority. -/
inductive SecretSource where
  | apiKey
  | passphrase
  | random
  deriving DecidableEq, Repr

/-- The secret's bytes and where they came from. -/
structure SharedSecret where
  bytes : List UInt8
  source : SecretSource
  deriving DecidableEq, Repr

/-- The name of a source in answers. -/
def SecretSource.name : SecretSource → String
  | .apiKey => "api_key"
  | .passphrase => "passphrase"
  | .random => "random"

/-- The name of a source in diagnostic texts. -/
def SecretSource.diagnosticName : SecretSource → String
  | .apiKey => "ApiKey"
  | .passphrase => "Passphrase"
  | .random => "Random"

namespace SharedSecret

/-- The length of secrets that are not configured verbatim. -/
def derivedLength : Nat := 16

/-- Pick the secret; `random` supplies the bytes of last resort. -/
def derive (apiKey : List UInt8) (passphrase : String) (random : List UInt8) : SharedSecret :=
  if apiKey ≠ [] then ⟨apiKey, .apiKey⟩
  else if passphrase ≠ "" then
    ⟨(Digest.Sha1.digest (Utf8.encode passphrase)).take derivedLength, .passphrase⟩
  else ⟨random, .random⟩

/-- What callers present as their API key: a configured key as it is, any other secret in
hexadecimal. -/
def display (s : SharedSecret) : String :=
  match s.source with
  | .apiKey => Utf8.decodeLossy s.bytes
  | .passphrase | .random => Hex.encode s.bytes

/-- A description that does not give the secret away. -/
def diagnostic (s : SharedSecret) : String :=
  "SharedSecret \x7b source: " ++ s.source.diagnosticName ++ ", len: "
    ++ Decimal.render s.bytes.length ++ ", .. \x7d"

end SharedSecret

/-- Holds the credentials and derives the secret on first use. -/
structure SecretProvider where
  apiKey : String
  passphrase : String
  derived : Option SharedSecret
  deriving DecidableEq

namespace SecretProvider

def new (apiKey passphrase : String) : SecretProvider :=
  ⟨apiKey, passphrase, none⟩

/-- The secret, and the provider that remembers it. -/
def sharedSecret (p : SecretProvider) (random : List UInt8) : SharedSecret × SecretProvider :=
  match p.derived with
  | some s => (s, p)
  | none =>
    let s := SharedSecret.derive (Utf8.encode p.apiKey) p.passphrase random
    (s, { p with derived := some s })

/-- A description that does not give the secret away. -/
def diagnostic (p : SecretProvider) : String :=
  let secret := match p.derived with
    | some s => "Some(" ++ s.diagnostic ++ ")"
    | none => "None"
  "SecretProvider \x7b secret: " ++ secret ++ ", .. \x7d"

end SecretProvider

end TorznabGateway
