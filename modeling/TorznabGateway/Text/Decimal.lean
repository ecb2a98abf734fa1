/-!
# Decimal numerals

Natural numbers in decimal digits: writing, padding to a width, and reading numerals that must fit
a bound. A numeral that is read may have a plus sign and any number of leading zeros.
-/
namespace TorznabGateway.Text.Decimal

/-- The digit with value `n`, for `n < 10`. -/
def digit (n : Nat) : Char :=
  .ofNat ('0'.toNat + n)

/-- The decimal digits of `n`, without leading zeros. -/
def digits (n : Nat) : List Char :=
  if n < 10 then [digit n] else digits (n / 10) ++ [digit (n % 10)]

/-- The decimal numeral of `n`. -/
def render (n : Nat) : String :=
  .ofList (digits n)

/-- The decimal digits of `n`, with zeros in front up to `width`. -/
def padded (width n : Nat) : List Char :=
  let ds := digits n
  List.replicate (width - ds.length) '0' ++ ds

/-- The value of an ASCII decimal digit. -/
def digitValue? (c : Char) : Option Nat :=
  if '0' ≤ c ∧ c ≤ '9' then some (c.toNat - '0'.toNat) else none

/-- Read digits after the value `acc`; anything but a digit is refused. -/
def readDigits? (acc : Nat) : List Char → Option Nat
  | [] => some acc
  | c :: cs =>
    match digitValue? c with
    | some d => readDigits? (10 * acc + d) cs
    | none => none

/-- Read a non-empty run of digits. -/
def readNat? : List Char → Option Nat
  | [] => none
  | cs => readDigits? 0 cs

/-- Read a numeral with an optional plus sign whose value is at most `limit`. -/
def readUpTo? (limit : Nat) (cs : List Char) : Option Nat :=
  let unsigned := match cs with
    | '+' :: rest => readNat? rest
    | _ => readNat? cs
  match unsigned with
  | some n => if n ≤ limit then some n else none
  | none => none

/-- The largest value of an unsigned 16-bit number. -/
def max16 : Nat := 0xFFFF

/-- The largest value of an unsigned 32-bit number. -/
def max32 : Nat := 0xFFFFFFFF

/-- The largest value of an unsigned 64-bit number. -/
def max64 : Nat := 0xFFFFFFFFFFFFFFFF

/-! ## Reading what was written -/

theorem digitValue?_digit {n : Nat} (h : n < 10) : digitValue? (digit n) = some n := by
  revert n
  decide

theorem readDigits?_append (acc : Nat) (cs ds : List Char) :
    readDigits? acc (cs ++ ds) = (readDigits? acc cs).bind (readDigits? · ds) := by
  induction cs generalizing acc with
  | nil => rfl
  | cons c cs ih =>
    rw [List.cons_append, readDigits?, readDigits?]
    split
    · exact ih _
    · rfl

theorem digits_ne_nil (n : Nat) : digits n ≠ [] := by
  rw [digits]
  split <;> simp

theorem readDigits?_digits (n : Nat) : readDigits? 0 (digits n) = some n := by
  induction n using digits.induct with
  | case1 n h => simp [digits, h, readDigits?, digitValue?_digit h]
  | case2 n h ih =>
    have last : digitValue? (digit (n % 10)) = some (n % 10) := digitValue?_digit (by omega)
    rw [digits, if_neg h, readDigits?_append, ih, Option.bind_some, readDigits?, last]
    simp only [readDigits?, Option.some.injEq]
    omega

/-- A number is read back from its digits. -/
theorem readNat?_digits (n : Nat) : readNat? (digits n) = some n := by
  match hd : digits n with
  | [] => exact absurd hd (digits_ne_nil n)
  | c :: cs => rw [readNat?, ← hd, readDigits?_digits]; simp

/-- No numeral is written with a leading zero, the numeral of zero apart. -/
theorem head?_digits {n : Nat} (h : 0 < n) : (digits n).head? ≠ some '0' := by
  induction n using digits.induct with
  | case1 n hn =>
    have key : ∀ k < 10, 0 < k → (digits k).head? ≠ some '0' := by decide +kernel
    exact key n hn h
  | case2 n hn ih =>
    rw [digits, if_neg hn]
    match hd : digits (n / 10) with
    | [] => exact absurd hd (digits_ne_nil _)
    | c :: cs => simpa [hd] using ih (by omega)

/-! ## What is written -/

theorem isDigit_of_mem {n : Nat} {c : Char} (h : c ∈ digits n) : c.isDigit := by
  have one : ∀ k < 10, (digit k).isDigit := by decide
  induction n using digits.induct with
  | case1 n hn =>
    rw [digits, if_pos hn] at h
    rw [List.mem_singleton.1 h]
    exact one n hn
  | case2 n hn ih =>
    rw [digits, if_neg hn, List.mem_append] at h
    rcases h with h | h
    · exact ih h
    · rw [List.mem_singleton.1 h]
      exact one _ (by omega)

theorem digits_injective {m n : Nat} (h : digits m = digits n) : m = n := by
  have read := readDigits?_digits m
  rw [h, readDigits?_digits] at read
  exact (Option.some.inj read).symm

/-- Zeros in front do not change a number. -/
theorem readDigits?_padded (width n : Nat) : readDigits? 0 (padded width n) = some n := by
  have zeros (k : Nat) : readDigits? 0 (List.replicate k '0') = some 0 := by
    induction k with
    | zero => rfl
    | succ k ih => exact ih
  rw [padded, readDigits?_append, zeros, Option.bind_some, readDigits?_digits]

theorem padded_injective {width m n : Nat} (h : padded width m = padded width n) : m = n := by
  have read := readDigits?_padded width m
  rw [h, readDigits?_padded] at read
  exact (Option.some.inj read).symm

theorem isDigit_of_mem_padded {width n : Nat} {c : Char} (h : c ∈ padded width n) : c.isDigit := by
  rw [padded, List.mem_append] at h
  rcases h with zero | digit
  · rw [List.eq_of_mem_replicate zero]
    decide
  · exact isDigit_of_mem digit

theorem padded_ne_nil (width n : Nat) : padded width n ≠ [] := by
  simp [padded, digits_ne_nil]

end TorznabGateway.Text.Decimal
