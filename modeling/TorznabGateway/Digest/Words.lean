/-!
# Big-endian words

Bytes as 32-bit words and back, and the padding that both hash functions put behind a message: a
one bit, zeros up to eight bytes before the end of a 64-byte block, and the length in bits.
-/
namespace TorznabGateway.Digest

/-- The four bytes of a word, the highest first. -/
def wordBytes (w : UInt32) : List UInt8 :=
  [(w >>> 24).toUInt8, (w >>> 16).toUInt8, (w >>> 8).toUInt8, w.toUInt8]

/-- The words of a byte sequence whose length is a multiple of four. -/
def words : List UInt8 → List UInt32
  | a :: b :: c :: d :: rest =>
    (a.toUInt32 <<< 24 ||| b.toUInt32 <<< 16 ||| c.toUInt32 <<< 8 ||| d.toUInt32) :: words rest
  | _ => []

/-- The lowest `width` bytes of a number, the highest first. -/
def natBytes : Nat → Nat → List UInt8
  | 0, _ => []
  | width + 1, n => natBytes width (n / 256) ++ [.ofNat (n % 256)]

/-- Zeros between the one bit and the length. -/
def paddingZeros (size : Nat) : Nat :=
  (119 - size % 64) % 64

/-- The message with its padding: whole blocks of 64 bytes. -/
def pad (message : List UInt8) : List UInt8 :=
  message ++ [0x80] ++ List.replicate (paddingZeros message.length) 0
    ++ natBytes 8 (8 * message.length)

/-- Fold over the 16-word blocks of a padded message. -/
def foldBlocks {σ : Type} (step : σ → List UInt32 → σ) (start : σ) (ws : List UInt32) : σ :=
  (List.range (ws.length / 16)).foldl (fun s i => step s ((ws.drop (16 * i)).take 16)) start

/-- Rotation towards the high bits, for `0 < n < 32`. -/
def rotateLeft (w : UInt32) (n : UInt32) : UInt32 :=
  (w <<< n) ||| (w >>> (32 - n))

/-- Rotation towards the low bits, for `0 < n < 32`. -/
def rotateRight (w : UInt32) (n : UInt32) : UInt32 :=
  (w >>> n) ||| (w <<< (32 - n))

theorem length_natBytes (width n : Nat) : (natBytes width n).length = width := by
  induction width generalizing n with
  | zero => rfl
  | succ width ih => simp [natBytes, ih]

theorem length_pad_mod (message : List UInt8) : (pad message).length % 64 = 0 := by
  simp [pad, paddingZeros, length_natBytes]
  omega

end TorznabGateway.Digest
