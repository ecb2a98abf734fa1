/-!
# UTF-8

Characters as one to four bytes, and back. Reading comes in two kinds. `decode?` refuses anything
that is not the encoding of a text. `decodeLossy` replaces every maximal part that cannot be
continued to a character by U+FFFD, so that it reads every byte sequence.
-/
namespace TorznabGateway.Text.Utf8

/-- The bytes of one character. -/
def encodeChar (c : Char) : List UInt8 :=
  let n := c.toNat
  if n < 0x80 then [.ofNat n]
  else if n < 0x800 then [.ofNat (0xC0 + n / 64), .ofNat (0x80 + n % 64)]
  else if n < 0x10000 then
    [.ofNat (0xE0 + n / 4096), .ofNat (0x80 + n / 64 % 64), .ofNat (0x80 + n % 64)]
  else
    [.ofNat (0xF0 + n / 262144), .ofNat (0x80 + n / 4096 % 64), .ofNat (0x80 + n / 64 % 64),
      .ofNat (0x80 + n % 64)]

/-- The bytes of a list of characters. -/
def encodeChars (cs : List Char) : List UInt8 :=
  cs.flatMap encodeChar

theorem encodeChar_of_lt {c : Char} (h : c.toNat < 0x80) : encodeChar c = [.ofNat c.toNat] := by
  simp [encodeChar, h]

@[simp] theorem encodeChars_nil : encodeChars [] = [] := rfl

@[simp] theorem encodeChars_cons (c : Char) (cs : List Char) :
    encodeChars (c :: cs) = encodeChar c ++ encodeChars cs :=
  List.flatMap_cons

@[simp] theorem encodeChars_append (cs ds : List Char) :
    encodeChars (cs ++ ds) = encodeChars cs ++ encodeChars ds :=
  List.flatMap_append

/-- The bytes of a character outside ASCII are outside ASCII. -/
theorem le_of_mem_encodeChar {c : Char} {b : UInt8} (hc : 0x80 ≤ c.toNat)
    (hb : b ∈ encodeChar c) : 0x80 ≤ b.toNat := by
  have range : c.toNat < 0xD800 ∨ 0xDFFF < c.toNat ∧ c.toNat < 0x110000 := c.valid
  have byte {n : Nat} (hn : n < 256) : (UInt8.ofNat n).toNat = n := UInt8.toNat_ofNat_of_lt' hn
  rw [encodeChar, if_neg (by omega)] at hb
  split at hb
  · simp only [List.mem_cons, List.not_mem_nil, or_false] at hb
    rcases hb with rfl | rfl <;> rw [byte (by omega)] <;> omega
  split at hb
  · simp only [List.mem_cons, List.not_mem_nil, or_false] at hb
    rcases hb with rfl | rfl | rfl <;> rw [byte (by omega)] <;> omega
  · simp only [List.mem_cons, List.not_mem_nil, or_false] at hb
    rcases hb with rfl | rfl | rfl | rfl <;> rw [byte (by omega)] <;> omega

/-- An ASCII byte among the bytes of characters is one of these characters. -/
theorem ofNat_mem_of_mem_encodeChars {b : UInt8} {cs : List Char} (hb : b ∈ encodeChars cs)
    (ascii : b.toNat < 0x80) : Char.ofNat b.toNat ∈ cs := by
  obtain ⟨c, hc, hb⟩ := List.mem_flatMap.1 hb
  rcases Nat.lt_or_ge c.toNat 0x80 with small | wide
  · rw [encodeChar_of_lt small, List.mem_singleton] at hb
    rw [hb, UInt8.toNat_ofNat_of_lt' (Nat.lt_trans small (by decide)), Char.ofNat_toNat]
    exact hc
  · exact absurd (le_of_mem_encodeChar wide hb) (Nat.not_le.2 ascii)

/-- The bytes of a text. -/
def encode (s : String) : List UInt8 :=
  encodeChars s.toList

/-- The lead byte `b` of a longer sequence: how many bytes follow it, the bits it holds itself, and
the least and greatest value of the byte after it. -/
def lead? (b : Nat) : Option (Nat × Nat × Nat × Nat) :=
  if 0xC2 ≤ b ∧ b ≤ 0xDF then some (1, b - 0xC0, 0x80, 0xBF)
  else if b = 0xE0 then some (2, 0, 0xA0, 0xBF)
  else if b = 0xED then some (2, 0xD, 0x80, 0x9F)
  else if 0xE1 ≤ b ∧ b ≤ 0xEF then some (2, b - 0xE0, 0x80, 0xBF)
  else if b = 0xF0 then some (3, 0, 0x90, 0xBF)
  else if 0xF1 ≤ b ∧ b ≤ 0xF3 then some (3, b - 0xF0, 0x80, 0xBF)
  else if b = 0xF4 then some (3, 4, 0x80, 0x8F)
  else none

/-- Read `owed` continuation bytes after the bits `acc`, the next one between `low` and `high`:
the value if all are there, and the number of bytes that fitted. -/
def continuation (owed acc low high : Nat) : List UInt8 → Option Nat × Nat
  | [] => if owed = 0 then (some acc, 0) else (none, 0)
  | b :: bs =>
    match owed with
    | 0 => (some acc, 0)
    | owed + 1 =>
      if low ≤ b.toNat ∧ b.toNat ≤ high then
        let (value, taken) := continuation owed (64 * acc + (b.toNat - 0x80)) 0x80 0xBF bs
        (value, taken + 1)
      else (none, 0)

/-- The first character of a non-empty byte sequence, or `none` for a part that is no character,
and the number of bytes after the first that belong to it. -/
def firstChar (b : UInt8) (bs : List UInt8) : Option Char × Nat :=
  if b.toNat < 0x80 then (some (.ofNat b.toNat), 0)
  else match lead? b.toNat with
    | none => (none, 0)
    | some (owed, bits, low, high) =>
      let (value, taken) := continuation owed bits low high bs
      (value.map Char.ofNat, taken)

/-- Split into characters, with `none` for every maximal part that is no character. The number
`skip` of bytes belongs to a character already read. -/
def scan (skip : Nat) : List UInt8 → List (Option Char)
  | [] => []
  | b :: bs =>
    match skip with
    | skip + 1 => scan skip bs
    | 0 =>
      let (c, taken) := firstChar b bs
      c :: scan taken bs

/-- The characters of a byte sequence, if it is the encoding of a text. -/
def decodeChars? (bs : List UInt8) : Option (List Char) :=
  (scan 0 bs).mapM id

/-- The text of a byte sequence, if it is the encoding of one. -/
def decode? (bs : List UInt8) : Option String :=
  (decodeChars? bs).map String.ofList

/-- The replacement character. -/
def replacement : Char := '\uFFFD'

/-- The text of a byte sequence, with U+FFFD for every maximal part that is no character. -/
def decodeLossy (bs : List UInt8) : String :=
  .ofList ((scan 0 bs).map (·.getD replacement))

end TorznabGateway.Text.Utf8
