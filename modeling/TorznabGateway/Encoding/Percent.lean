import TorznabGateway.Text.Hex
import TorznabGateway.Text.Utf8

/-!
# Percent-encoding

A byte written as `%` and two hexadecimal digits. `encode` keeps the unreserved characters of
RFC 3986 (letters, digits, `-`, `.`, `_`, `~`) and writes every other byte of the UTF-8 text this
way, so that its result holds no delimiter of a URL. Decoding reads `%` with two digits of either
case and keeps every other byte, a lone `%` too.
-/
namespace TorznabGateway.Encoding.Percent

open Text

/-- The unreserved bytes: ASCII letters and digits, `-`, `.`, `_` and `~`. -/
def isUnreserved (b : UInt8) : Bool :=
  let n := b.toNat
  (0x30 ≤ n && n ≤ 0x39) || (0x41 ≤ n && n ≤ 0x5A) || (0x61 ≤ n && n ≤ 0x7A)
    || n == 0x2D || n == 0x2E || n == 0x5F || n == 0x7E

/-- The escape of a byte, with upper-case digits. -/
def escape (b : UInt8) : List Char :=
  ['%', Hex.upperDigit (b.toNat / 16), Hex.upperDigit (b.toNat % 16)]

/-- Write bytes, escaping those that do not satisfy `keep`. The bytes kept are ASCII. -/
def encodeBytes (keep : UInt8 → Bool) (bs : List UInt8) : List Char :=
  bs.flatMap fun b => if keep b then [.ofNat b.toNat] else escape b

/-- A text with every byte escaped that is not unreserved. -/
def encode (s : String) : String :=
  .ofList (encodeBytes isUnreserved (Utf8.encode s))

/-- The value of an ASCII byte as a hexadecimal digit. -/
def hexValue? (b : UInt8) : Option Nat :=
  if b.toNat < 0x80 then Hex.digitValue? (.ofNat b.toNat) else none

/-- The byte that two digits spell. -/
def hexPair? (h l : UInt8) : Option UInt8 :=
  match hexValue? h, hexValue? l with
  | some a, some b => some (.ofNat (16 * a + b))
  | _, _ => none

/-- The byte that three bytes spell, if they are an escape. -/
def escaped? (a h l : UInt8) : Option UInt8 :=
  if a == 0x25 then hexPair? h l else none

/-- Resolve the escapes of a byte sequence; `%` without two digits stands for itself. -/
def decodeBytes : List UInt8 → List UInt8
  | a :: h :: l :: rest =>
    match escaped? a h l with
    | some v => v :: decodeBytes rest
    | none => a :: decodeBytes (h :: l :: rest)
  | short => short

/-- The bytes a text stands for after its escapes are resolved. -/
def decode (s : String) : List UInt8 :=
  decodeBytes (Utf8.encode s)

/-! ## What is written -/

/-- A property of bytes holds of all if it holds of each. -/
theorem forall_byte {p : UInt8 → Prop} (h : ∀ n < 256, p (.ofNat n)) (b : UInt8) : p b := by
  have one := h b.toNat b.toNat_lt
  rwa [UInt8.ofNat_toNat] at one

theorem mem_escape {b : UInt8} {c : Char} (h : c ∈ escape b) :
    c = '%' ∨ ∃ n < 16, c = Hex.upperDigit n := by
  have high : b.toNat / 16 < 16 := by have := b.toNat_lt; omega
  have low : b.toNat % 16 < 16 := by omega
  simp only [escape, List.mem_cons, List.not_mem_nil, or_false] at h
  rcases h with rfl | rfl | rfl
  · exact .inl rfl
  · exact .inr ⟨_, high, rfl⟩
  · exact .inr ⟨_, low, rfl⟩

/-! ## Reading what was written -/

theorem upperDigit_toNat_lt {n : Nat} (h : n < 16) : (Hex.upperDigit n).toNat < 0x80 := by
  revert n
  decide

theorem hexValue?_upperDigit {n : Nat} (h : n < 16) :
    hexValue? (.ofNat (Hex.upperDigit n).toNat) = some n := by
  revert n
  decide

theorem escaped?_escape (b : UInt8) :
    escaped? 0x25 (.ofNat (Hex.upperDigit (b.toNat / 16)).toNat)
      (.ofNat (Hex.upperDigit (b.toNat % 16)).toNat) = some b := by
  have high : b.toNat / 16 < 16 := by have := b.toNat_lt; omega
  have low : b.toNat % 16 < 16 := by omega
  have byte : 16 * (b.toNat / 16) + b.toNat % 16 = b.toNat := by omega
  simp [escaped?, hexPair?, hexValue?_upperDigit high, hexValue?_upperDigit low, byte]

theorem encodeChars_escape (b : UInt8) :
    Utf8.encodeChars (escape b) = [0x25, .ofNat (Hex.upperDigit (b.toNat / 16)).toNat,
      .ofNat (Hex.upperDigit (b.toNat % 16)).toNat] := by
  have high := upperDigit_toNat_lt (n := b.toNat / 16) (by have := b.toNat_lt; omega)
  have low := upperDigit_toNat_lt (n := b.toNat % 16) (by omega)
  simp only [escape, Utf8.encodeChars_cons, Utf8.encodeChar_of_lt high, Utf8.encodeChar_of_lt low]
  rfl

theorem encodeChar_ofNat {b : UInt8} (h : b.toNat < 0x80) :
    Utf8.encodeChar (.ofNat b.toNat) = [b] := by
  have back : ∀ n < 0x80, (Char.ofNat n).toNat = n := by decide
  rw [Utf8.encodeChar_of_lt (by rwa [back _ h]), back _ h, UInt8.ofNat_toNat]

theorem decodeBytes_of_ne {a : UInt8} (bs : List UInt8) (h : a ≠ 0x25) :
    decodeBytes (a :: bs) = a :: decodeBytes bs := by
  match bs with
  | [] => rfl
  | [b] => rfl
  | b :: c :: rest => rw [decodeBytes, escaped?, if_neg (by simpa using h)]

/-- Bytes are read back from what was written for them, as long as the bytes kept are ASCII and
the percent sign is not among them. -/
theorem decodeBytes_encodeBytes_append {keep : UInt8 → Bool}
    (h : ∀ b, keep b → b.toNat < 0x80 ∧ b ≠ 0x25) (bs rest : List UInt8) :
    decodeBytes (Utf8.encodeChars (encodeBytes keep bs) ++ rest) = bs ++ decodeBytes rest := by
  induction bs with
  | nil => rfl
  | cons b bs ih =>
    rw [encodeBytes, List.flatMap_cons, ← encodeBytes, Utf8.encodeChars_append, List.append_assoc]
    by_cases hb : keep b
    · obtain ⟨ascii, ne⟩ := h b hb
      rw [if_pos hb, Utf8.encodeChars_cons, encodeChar_ofNat ascii, Utf8.encodeChars_nil,
        List.append_nil, List.singleton_append, decodeBytes_of_ne _ ne, ih, List.cons_append]
    · rw [if_neg hb, encodeChars_escape]
      simp only [List.cons_append, List.nil_append]
      rw [decodeBytes, escaped?_escape]
      simp only [ih]

theorem toNat_lt_of_isUnreserved {b : UInt8} (h : isUnreserved b) :
    b.toNat < 0x80 ∧ b ≠ 0x25 := by
  simp [isUnreserved] at h
  refine ⟨by omega, ?_⟩
  rintro rfl
  simp at h

/-- Every text is read back from its encoding. -/
theorem decode_encode (s : String) : decode (encode s) = Utf8.encode s := by
  have key := decodeBytes_encodeBytes_append (fun b => toNat_lt_of_isUnreserved) (Utf8.encode s) []
  rw [List.append_nil] at key
  simpa [decode, encode, Utf8.encode, decodeBytes] using key

end TorznabGateway.Encoding.Percent
