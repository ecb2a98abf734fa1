import TorznabGateway.Text.Utf8

/-!
# UTF-8: texts are read back

Every text is read back from its bytes. The work is done for one character: its bytes are read as
that character whatever follows them, by cases on how many bytes it has.

## Main statements

* `scan_encodeChar_append`: the bytes of a character are read as it.
* `decode?_encode`, `decodeLossy_encode`: both readers give a text back.
-/
namespace TorznabGateway.Text.Utf8

/-! ## Lead and continuation bytes -/

theorem lead?_two {k : Nat} (h : 2 ≤ k ∧ k < 32) :
    lead? (0xC0 + k) = some (1, k, 0x80, 0xBF) := by
  rw [lead?, if_pos (by omega), Nat.add_sub_cancel_left]

theorem lead?_three {k : Nat} (h : k < 16) :
    lead? (0xE0 + k)
      = some (2, k, if k = 0 then 0xA0 else 0x80, if k = 0xD then 0x9F else 0xBF) := by
  revert k
  decide

theorem lead?_four {k : Nat} (h : k < 5) :
    lead? (0xF0 + k)
      = some (3, k, if k = 0 then 0x90 else 0x80, if k = 4 then 0x8F else 0xBF) := by
  revert k
  decide

@[simp] theorem continuation_zero (acc low high : Nat) (bs : List UInt8) :
    continuation 0 acc low high bs = (some acc, 0) := by
  cases bs <;> rfl

theorem continuation_succ {owed acc low high : Nat} {b : UInt8} {bs : List UInt8}
    (h : low ≤ b.toNat ∧ b.toNat ≤ high) :
    continuation (owed + 1) acc low high (b :: bs)
      = ((continuation owed (64 * acc + (b.toNat - 0x80)) 0x80 0xBF bs).1,
         (continuation owed (64 * acc + (b.toNat - 0x80)) 0x80 0xBF bs).2 + 1) := by
  rw [continuation, if_pos h]

/-- A sequence whose continuation bytes are all there is one character. -/
theorem scan_lead {b : UInt8} {bs : List UInt8} {owed bits low high value taken : Nat}
    (hb : 0x80 ≤ b.toNat) (hl : lead? b.toNat = some (owed, bits, low, high))
    (hc : continuation owed bits low high bs = (some value, taken)) :
    scan 0 (b :: bs) = some (.ofNat value) :: scan taken bs := by
  simp [scan, firstChar, Nat.not_lt.2 hb, hl, hc]

/-! ## Characters of two, three and four bytes -/

private theorem toNat_byte {n : Nat} (h : n < 256) : (UInt8.ofNat n).toNat = n :=
  UInt8.toNat_ofNat_of_lt' h

theorem scan_two {n : Nat} (rest : List UInt8) (h : 0x80 ≤ n ∧ n < 0x800) :
    scan 0 (.ofNat (0xC0 + n / 64) :: .ofNat (0x80 + n % 64) :: rest)
      = some (.ofNat n) :: scan 0 rest := by
  have b0 := toNat_byte (n := 0xC0 + n / 64) (by omega)
  have b1 := toNat_byte (n := 0x80 + n % 64) (by omega)
  have value : 64 * (n / 64) + (0x80 + n % 64 - 0x80) = n := by omega
  have hl : lead? (UInt8.ofNat (0xC0 + n / 64)).toNat = some (1, n / 64, 0x80, 0xBF) := by
    rw [b0, lead?_two (by omega)]
  have hc : continuation 1 (n / 64) 0x80 0xBF (.ofNat (0x80 + n % 64) :: rest) = (some n, 1) := by
    rw [continuation_succ (by omega), continuation_zero, b1, value]
  rw [scan_lead (by omega) hl hc, scan]

theorem scan_three {n : Nat} (rest : List UInt8) (h : 0x800 ≤ n ∧ n < 0x10000)
    (hs : n < 0xD800 ∨ 0xDFFF < n) :
    scan 0 (.ofNat (0xE0 + n / 4096) :: .ofNat (0x80 + n / 64 % 64) :: .ofNat (0x80 + n % 64)
      :: rest) = some (.ofNat n) :: scan 0 rest := by
  have b0 := toNat_byte (n := 0xE0 + n / 4096) (by omega)
  have b1 := toNat_byte (n := 0x80 + n / 64 % 64) (by omega)
  have b2 := toNat_byte (n := 0x80 + n % 64) (by omega)
  have value : 64 * (64 * (n / 4096) + (0x80 + n / 64 % 64 - 0x80)) + (0x80 + n % 64 - 0x80)
      = n := by
    omega
  have hl : lead? (UInt8.ofNat (0xE0 + n / 4096)).toNat = some (2, n / 4096,
      if n / 4096 = 0 then 0xA0 else 0x80, if n / 4096 = 0xD then 0x9F else 0xBF) := by
    rw [b0, lead?_three (by omega)]
  have hc : continuation 2 (n / 4096) (if n / 4096 = 0 then 0xA0 else 0x80)
      (if n / 4096 = 0xD then 0x9F else 0xBF)
      (.ofNat (0x80 + n / 64 % 64) :: .ofNat (0x80 + n % 64) :: rest) = (some n, 2) := by
    rw [continuation_succ (by constructor <;> split <;> omega), continuation_succ (by omega),
      continuation_zero, b1, b2, value]
  rw [scan_lead (by omega) hl hc, scan, scan]

theorem scan_four {n : Nat} (rest : List UInt8) (h : 0x10000 ≤ n ∧ n < 0x110000) :
    scan 0 (.ofNat (0xF0 + n / 262144) :: .ofNat (0x80 + n / 4096 % 64)
      :: .ofNat (0x80 + n / 64 % 64) :: .ofNat (0x80 + n % 64) :: rest)
      = some (.ofNat n) :: scan 0 rest := by
  have b0 := toNat_byte (n := 0xF0 + n / 262144) (by omega)
  have b1 := toNat_byte (n := 0x80 + n / 4096 % 64) (by omega)
  have b2 := toNat_byte (n := 0x80 + n / 64 % 64) (by omega)
  have b3 := toNat_byte (n := 0x80 + n % 64) (by omega)
  have value : 64 * (64 * (64 * (n / 262144) + (0x80 + n / 4096 % 64 - 0x80))
      + (0x80 + n / 64 % 64 - 0x80)) + (0x80 + n % 64 - 0x80) = n := by
    omega
  have hl : lead? (UInt8.ofNat (0xF0 + n / 262144)).toNat = some (3, n / 262144,
      if n / 262144 = 0 then 0x90 else 0x80, if n / 262144 = 4 then 0x8F else 0xBF) := by
    rw [b0, lead?_four (by omega)]
  have hc : continuation 3 (n / 262144) (if n / 262144 = 0 then 0x90 else 0x80)
      (if n / 262144 = 4 then 0x8F else 0xBF) (.ofNat (0x80 + n / 4096 % 64)
      :: .ofNat (0x80 + n / 64 % 64) :: .ofNat (0x80 + n % 64) :: rest) = (some n, 3) := by
    rw [continuation_succ (by constructor <;> split <;> omega), continuation_succ (by omega),
      continuation_succ (by omega), continuation_zero, b1, b2, b3, value]
  rw [scan_lead (by omega) hl hc, scan, scan, scan]

/-! ## Characters and texts -/

/-- The bytes of a character are read as that character, whatever follows them. -/
theorem scan_encodeChar_append (c : Char) (rest : List UInt8) :
    scan 0 (encodeChar c ++ rest) = some c :: scan 0 rest := by
  have range : c.toNat < 0xD800 ∨ 0xDFFF < c.toNat ∧ c.toNat < 0x110000 := c.valid
  have back : Char.ofNat c.toNat = c := c.ofNat_toNat
  dsimp only [encodeChar]
  generalize c.toNat = n at range back ⊢
  subst back
  split
  · next h =>
    have b0 := toNat_byte (n := n) (by omega)
    simp [scan, firstChar, b0, h]
  split
  · next h1 h2 => exact scan_two rest (by omega)
  split
  · next h1 h2 h3 => exact scan_three rest (by omega) (by omega)
  · next h1 h2 h3 => exact scan_four rest (by omega)

theorem scan_encodeChars (cs : List Char) : scan 0 (encodeChars cs) = cs.map some := by
  induction cs with
  | nil => rfl
  | cons c cs ih => rw [encodeChars_cons, scan_encodeChar_append, ih, List.map_cons]

theorem decodeChars?_encodeChars (cs : List Char) : decodeChars? (encodeChars cs) = some cs := by
  rw [decodeChars?, scan_encodeChars]
  induction cs with
  | nil => rfl
  | cons c cs ih => simp [ih]

/-- A text is read back from its bytes. -/
theorem decode?_encode (s : String) : decode? (encode s) = some s := by
  rw [decode?, encode, decodeChars?_encodeChars, Option.map_some, String.ofList_toList]

/-- A text is read back from its bytes, none of them replaced. -/
theorem decodeLossy_encode (s : String) : decodeLossy (encode s) = s := by
  simp [decodeLossy, encode, scan_encodeChars, Function.comp_def]

end TorznabGateway.Text.Utf8
