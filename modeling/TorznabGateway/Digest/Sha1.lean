import TorznabGateway.Digest.Words

/-!
# SHA-1

The hash function of FIPS 180-4 that name-based identifiers and passphrase secrets are built on.
`digest` hashes a whole byte sequence to 20 bytes.
-/
namespace TorznabGateway.Digest.Sha1

/-- The five working words. -/
structure State where
  a : UInt32
  b : UInt32
  c : UInt32
  d : UInt32
  e : UInt32

/-- The state before the first block. -/
def start : State :=
  { a := 0x67452301, b := 0xEFCDAB89, c := 0x98BADCFE, d := 0x10325476, e := 0xC3D2E1F0 }

/-- Extend the schedule by `count` words. It is kept newest first. -/
def extend : Nat → List UInt32 → List UInt32
  | 0, ws => ws
  | count + 1, ws =>
    let w := ws.getD 2 0 ^^^ ws.getD 7 0 ^^^ ws.getD 13 0 ^^^ ws.getD 15 0
    extend count (rotateLeft w 1 :: ws)

/-- The 80 words that a block of 16 gives to the rounds. -/
def schedule (block : List UInt32) : List UInt32 :=
  (extend 64 block.reverse).reverse

/-- The mixing function and the constant of round `i`. -/
def mix (i : Nat) (s : State) : UInt32 × UInt32 :=
  if i < 20 then ((s.b &&& s.c) ||| (~~~s.b &&& s.d), 0x5A827999)
  else if i < 40 then (s.b ^^^ s.c ^^^ s.d, 0x6ED9EBA1)
  else if i < 60 then ((s.b &&& s.c) ||| (s.b &&& s.d) ||| (s.c &&& s.d), 0x8F1BBCDC)
  else (s.b ^^^ s.c ^^^ s.d, 0xCA62C1D6)

/-- Round `i`, with its word of the schedule. -/
def round (s : State) (i : Nat) (word : UInt32) : State :=
  let (f, k) := mix i s
  { a := rotateLeft s.a 5 + f + s.e + k + word, b := s.a, c := rotateLeft s.b 30,
    d := s.c, e := s.d }

/-- Work one block into the state. -/
def compress (s : State) (block : List UInt32) : State :=
  let t := (schedule block).zipIdx.foldl (fun t (w, i) => round t i w) s
  { a := s.a + t.a, b := s.b + t.b, c := s.c + t.c, d := s.d + t.d, e := s.e + t.e }

/-- The SHA-1 digest of a byte sequence. -/
def digest (message : List UInt8) : List UInt8 :=
  let s := foldBlocks compress start (words (pad message))
  [s.a, s.b, s.c, s.d, s.e].flatMap wordBytes

theorem length_digest (message : List UInt8) : (digest message).length = 20 := rfl

end TorznabGateway.Digest.Sha1
