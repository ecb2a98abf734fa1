/-!
# Hexadecimal

Bytes as pairs of hexadecimal digits, the high half first. Writing uses lower-case letters;
reading takes either case.
-/
namespace TorznabGateway.Text.Hex

/-- The lower-case digit with value `n`, for `n < 16`. -/
def digit (n : Nat) : Char :=
  if n < 10 then .ofNat ('0'.toNat + n) else .ofNat ('a'.toNat + (n - 10))

/-- The upper-case digit with value `n`, for `n < 16`. -/
def upperDigit (n : Nat) : Char :=
  if n < 10 then .ofNat ('0'.toNat + n) else .ofNat ('A'.toNat + (n - 10))

/-- The value of a hexadecimal digit of either case. -/
def digitValue? (c : Char) : Option Nat :=
  if '0' ≤ c ∧ c ≤ '9' then some (c.toNat - '0'.toNat)
  else if 'a' ≤ c ∧ c ≤ 'f' then some (c.toNat - 'a'.toNat + 10)
  else if 'A' ≤ c ∧ c ≤ 'F' then some (c.toNat - 'A'.toNat + 10)
  else none

/-- Two digits for every byte. -/
def encodeChars : List UInt8 → List Char
  | [] => []
  | b :: bs => digit (b.toNat / 16) :: digit (b.toNat % 16) :: encodeChars bs

/-- Two digits for every byte. -/
def encode (bs : List UInt8) : String :=
  .ofList (encodeChars bs)

/-- Read pairs of digits; an odd digit or any other character is refused. -/
def decode? : List Char → Option (List UInt8)
  | [] => some []
  | [_] => none
  | h :: l :: rest =>
    match digitValue? h, digitValue? l, decode? rest with
    | some a, some b, some bs => some (.ofNat (16 * a + b) :: bs)
    | _, _, _ => none

/-- The value of a run of hexadecimal digits read after the value `acc`. -/
def readDigits? (acc : Nat) : List Char → Option Nat
  | [] => some acc
  | c :: cs =>
    match digitValue? c with
    | some d => readDigits? (16 * acc + d) cs
    | none => none

/-! ## Reading what was written -/

theorem digitValue?_digit {n : Nat} (h : n < 16) : digitValue? (digit n) = some n := by
  revert n
  decide

theorem digitValue?_upperDigit {n : Nat} (h : n < 16) : digitValue? (upperDigit n) = some n := by
  revert n
  decide

/-- Bytes are read back from their digits. -/
theorem decode?_encodeChars (bs : List UInt8) : decode? (encodeChars bs) = some bs := by
  induction bs with
  | nil => rfl
  | cons b bs ih =>
    have high : b.toNat / 16 < 16 := by have := b.toNat_lt; omega
    have low : b.toNat % 16 < 16 := by omega
    have byte : 16 * (b.toNat / 16) + b.toNat % 16 = b.toNat := by omega
    simp [encodeChars, decode?, digitValue?_digit high, digitValue?_digit low, ih, byte]

end TorznabGateway.Text.Hex
