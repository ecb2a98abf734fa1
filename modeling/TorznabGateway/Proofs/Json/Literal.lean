import TorznabGateway.Json.Reader
import TorznabGateway.Json.Writer
import TorznabGateway.Text.Utf8.RoundTrip

/-!
# String literals are read back

Every text is written as a literal that stands for it, and the literal ends at its closing quote.
Both readers treat the three kinds of spelling in the same way: a letter after a backslash, four
hexadecimal digits, and bytes that stand for themselves.

## Main definitions

* `CharSpelling`: the three kinds of spelling of one character.
* `spell`: the bytes of a text between the quotes.

## Main statements

* `charSpelling_escapeChar`: every character is written in one of the three ways.
* `read?_spell`: a text is read back from its spelling.
* `readLiteral_spell`: a literal is cut off at its closing quote, whatever follows.
-/
namespace TorznabGateway.Json

open Text

namespace Quoted

/-! ## Kinds of spelling -/

/-- A byte that stands for itself between the quotes. -/
def IsPlain (b : UInt8) : Prop :=
  b ≠ 0x5C ∧ b ≠ 0x22 ∧ ¬b < 0x20

instance (b : UInt8) : Decidable (IsPlain b) :=
  inferInstanceAs (Decidable (_ ∧ _))

/-- The three kinds of spelling that a character can have. -/
inductive CharSpelling (c : Char) : List UInt8 → Prop where
  | letter {x v : UInt8} (hx : simpleEscape? x = some v) (hc : Utf8.encodeChar c = [v]) :
      CharSpelling c [0x5C, x]
  | digits {p q r s : UInt8} (hn : hexQuad? p q r s = some c.toNat) (hc : c.toNat < 0xD800) :
      CharSpelling c [0x5C, 0x75, p, q, r, s]
  | plain (h : ∀ b ∈ Utf8.encodeChar c, IsPlain b) : CharSpelling c (Utf8.encodeChar c)

theorem isPlain_ofNat {n : Nat} (h : n < 0x80) (lo : 0x20 ≤ n) (hq : n ≠ 0x22) (hb : n ≠ 0x5C) :
    IsPlain (.ofNat n) := by
  revert n
  decide

theorem isPlain_of_le {b : UInt8} (h : 0x80 ≤ b.toNat) : IsPlain b := by
  refine ⟨?_, ?_, ?_⟩
  · rintro rfl
    exact absurd h (by decide)
  · rintro rfl
    exact absurd h (by decide)
  · intro hb
    have hlt : b.toNat < 0x20 := UInt8.lt_iff_toNat_lt.1 hb
    omega

theorem encodeChar_digit {n : Nat} (h : n < 16) :
    Utf8.encodeChar (Hex.digit n) = [.ofNat (Hex.digit n).toNat] := by
  revert n
  decide

theorem hexDigit?_digit {n : Nat} (h : n < 16) :
    hexDigit? (.ofNat (Hex.digit n).toNat) = some n := by
  revert n
  decide

/-- A control character without a letter of its own is written with its code. -/
theorem charSpelling_control {c : Char} (h : c.toNat < 0x20) :
    CharSpelling c (Utf8.encodeChars
      ['\\', 'u', '0', '0', Hex.digit (c.toNat / 16), Hex.digit (c.toNat % 16)]) := by
  have high : c.toNat / 16 < 16 := by omega
  have low : c.toNat % 16 < 16 := by omega
  have bytes : Utf8.encodeChars
      ['\\', 'u', '0', '0', Hex.digit (c.toNat / 16), Hex.digit (c.toNat % 16)]
      = [0x5C, 0x75, 0x30, 0x30, .ofNat (Hex.digit (c.toNat / 16)).toNat,
          .ofNat (Hex.digit (c.toNat % 16)).toNat] := by
    simp only [Utf8.encodeChars_cons, Utf8.encodeChars_nil, encodeChar_digit high,
      encodeChar_digit low]
    rfl
  have zero : hexDigit? 0x30 = some 0 := by decide
  rw [bytes]
  refine .digits ?_ (by omega)
  rw [hexQuad?, zero, hexDigit?_digit high, hexDigit?_digit low]
  simp only [Option.some.injEq]
  omega

/-- A character that needs no escape is written as its own bytes. -/
theorem charSpelling_self {c : Char} (hq : c ≠ '"') (hb : c ≠ '\\') (hc : ¬c.toNat < 0x20) :
    CharSpelling c (Utf8.encodeChar c) := by
  refine .plain fun b hm => ?_
  rcases Nat.lt_or_ge c.toNat 0x80 with ascii | wide
  · rw [Utf8.encodeChar_of_lt ascii, List.mem_singleton] at hm
    have back : Char.ofNat c.toNat = c := c.ofNat_toNat
    have quote : c.toNat ≠ 0x22 := fun e => hq (by rw [← back, e])
    have backslash : c.toNat ≠ 0x5C := fun e => hb (by rw [← back, e])
    rw [hm]
    exact isPlain_ofNat ascii (by omega) quote backslash
  · exact isPlain_of_le (Utf8.le_of_mem_encodeChar wide hm)

theorem charSpelling_escapeChar (c : Char) :
    CharSpelling c (Utf8.encodeChars (escapeChar c)) := by
  unfold escapeChar
  -- The seven characters with a letter of their own, then control characters, then the others.
  split
  · next h => subst h; exact .letter (v := 0x22) rfl rfl
  split
  · next h => subst h; exact .letter (v := 0x5C) rfl rfl
  split
  · next h => subst h; exact .letter (v := 0x08) rfl rfl
  split
  · next h => subst h; exact .letter (v := 0x0C) rfl rfl
  split
  · next h => subst h; exact .letter (v := 0x0A) rfl rfl
  split
  · next h => subst h; exact .letter (v := 0x0D) rfl rfl
  split
  · next h => subst h; exact .letter (v := 0x09) rfl rfl
  split
  · next h => exact charSpelling_control h
  · next hq hb _ _ _ _ _ hc =>
    rw [Utf8.encodeChars_cons, Utf8.encodeChars_nil, List.append_nil]
    exact charSpelling_self hq hb hc

/-! ## Resolving escapes -/

theorem unescape?_letter {x v : UInt8} (hx : simpleEscape? x = some v) (rest : List UInt8) :
    unescape? (0x5C :: x :: rest) = (unescape? rest).map (v :: ·) := by
  have hu : x ≠ 0x75 := by rintro rfl; cases hx
  rw [unescape?]
  · simp [hx]
  · rintro a b c d rest' rfl
    exact absurd rfl hu

theorem unescape?_digits {p q r s : UInt8} {n : Nat} (hn : hexQuad? p q r s = some n)
    (h : n < 0xD800) (rest : List UInt8) :
    unescape? (0x5C :: 0x75 :: p :: q :: r :: s :: rest)
      = (unescape? rest).map (Utf8.encodeChar (.ofNat n) ++ ·) := by
  rw [unescape?, hn]
  simp [h]

theorem unescape?_plain {b : UInt8} (h : IsPlain b) (rest : List UInt8) :
    unescape? (b :: rest) = (unescape? rest).map (b :: ·) := by
  obtain ⟨hb, hq, hc⟩ := h
  rw [unescape?]
  · simp [hb, hq, hc]
  · rintro a b c d rest' rfl
    exact absurd rfl hb
  · rintro x rest' rfl
    exact absurd rfl hb

theorem unescape?_append_plain {bs : List UInt8} (h : ∀ b ∈ bs, IsPlain b) (rest : List UInt8) :
    unescape? (bs ++ rest) = (unescape? rest).map (bs ++ ·) := by
  induction bs with
  | nil => simp
  | cons b bs ih =>
    rw [List.cons_append, unescape?_plain (h b List.mem_cons_self),
      ih fun x hx => h x (List.mem_cons_of_mem b hx), Option.map_map]
    rfl

theorem CharSpelling.unescape? {c : Char} {bs : List UInt8} (h : CharSpelling c bs)
    (rest : List UInt8) :
    Quoted.unescape? (bs ++ rest) = (Quoted.unescape? rest).map (Utf8.encodeChar c ++ ·) := by
  cases h with
  | letter hx hc => rw [hc]; exact unescape?_letter hx rest
  | digits hn hc =>
    have := unescape?_digits hn hc rest
    rwa [c.ofNat_toNat] at this
  | plain h => exact unescape?_append_plain h rest

/-- The bytes of a text between the quotes. -/
def spell (s : String) : List UInt8 :=
  Utf8.encodeChars (escape s)

theorem unescape?_escape (cs : List Char) :
    unescape? (Utf8.encodeChars (cs.flatMap escapeChar)) = some (Utf8.encodeChars cs) := by
  induction cs with
  | nil => rfl
  | cons c cs ih =>
    rw [List.flatMap_cons, Utf8.encodeChars_append, (charSpelling_escapeChar c).unescape?, ih,
      Option.map_some, Utf8.encodeChars_cons]

/-- A text is read back from its spelling. -/
theorem read?_spell (s : String) : read? (spell s) = some s := by
  rw [read?, spell, escape, unescape?_escape, Option.bind_some]
  exact Utf8.decode?_encode s

end Quoted

/-! ## The end of a literal -/

open Quoted

theorem readLiteral_plain {b : UInt8} (h : IsPlain b) (rest : List UInt8) :
    readLiteral (b :: rest) = (readLiteral rest).map fun p => (b :: p.1, p.2) := by
  obtain ⟨hb, hq, hc⟩ := h
  rw [readLiteral]
  · rw [if_neg (by simp [hb, hc])]
    cases readLiteral rest <;> rfl
  · rintro rfl
    exact absurd rfl hq
  · rintro p q r s rest' rfl
    exact absurd rfl hb
  · rintro x rest' rfl
    exact absurd rfl hb

theorem readLiteral_append_plain {bs : List UInt8} (h : ∀ b ∈ bs, IsPlain b) (rest : List UInt8) :
    readLiteral (bs ++ rest) = (readLiteral rest).map fun p => (bs ++ p.1, p.2) := by
  induction bs with
  | nil => simp
  | cons b bs ih =>
    rw [List.cons_append, readLiteral_plain (h b List.mem_cons_self),
      ih fun x hx => h x (List.mem_cons_of_mem b hx), Option.map_map]
    rfl

/-- The spelling of a character belongs to the literal as a whole. -/
theorem Quoted.CharSpelling.readLiteral {c : Char} {bs : List UInt8} (h : CharSpelling c bs)
    (rest : List UInt8) :
    Json.readLiteral (bs ++ rest) = (Json.readLiteral rest).map fun p => (bs ++ p.1, p.2) := by
  cases h with
  | @letter x v hx hc =>
    have hu : x ≠ 0x75 := by rintro rfl; cases hx
    rw [List.cons_append, List.cons_append, List.nil_append, Json.readLiteral]
    · rw [hx]
      cases Json.readLiteral rest <;> rfl
    · rintro p q r s rest' rfl
      exact absurd rfl hu
  | digits hn hc =>
    rw [List.cons_append, List.cons_append, List.cons_append, List.cons_append, List.cons_append,
      List.cons_append, List.nil_append, Json.readLiteral, hn]
    cases Json.readLiteral rest <;> rfl
  | plain h => exact readLiteral_append_plain h rest

theorem readLiteral_escape (cs : List Char) (rest : List UInt8) :
    readLiteral (Utf8.encodeChars (cs.flatMap escapeChar) ++ 0x22 :: rest)
      = some (Utf8.encodeChars (cs.flatMap escapeChar), rest) := by
  induction cs with
  | nil => rw [List.flatMap_nil, Utf8.encodeChars_nil, List.nil_append, readLiteral]
  | cons c cs ih =>
    rw [List.flatMap_cons, Utf8.encodeChars_append, List.append_assoc,
      (charSpelling_escapeChar c).readLiteral, ih, Option.map_some]

/-- A literal ends at its closing quote. -/
theorem readLiteral_spell (s : String) (rest : List UInt8) :
    readLiteral (spell s ++ 0x22 :: rest) = some (spell s, rest) :=
  readLiteral_escape s.toList rest

end TorznabGateway.Json
