import TorznabGateway.Digest.Sha256

/-!
# Message authentication with SHA-256

The keyed hash of RFC 2104 over SHA-256.
-/
namespace TorznabGateway.Digest.Hmac

/-- The key as one block: a key longer than a block is hashed first, a shorter one is filled up
with zeros. -/
def blockKey (key : List UInt8) : List UInt8 :=
  let k := if key.length > 64 then Sha256.digest key else key
  k ++ List.replicate (64 - k.length) 0

/-- The authentication code of a message under a key: 32 bytes. -/
def tag (key message : List UInt8) : List UInt8 :=
  let k := blockKey key
  let inner := Sha256.digest (k.map (· ^^^ 0x36) ++ message)
  Sha256.digest (k.map (· ^^^ 0x5c) ++ inner)

theorem length_tag (key message : List UInt8) : (tag key message).length = 32 :=
  Sha256.length_digest _

end TorznabGateway.Digest.Hmac
