import TorznabGateway.Encoding.Form
import TorznabGateway.Text.Utf8.RoundTrip

/-!
# Query pairs are read back

A component is read back from what is written for it, whatever characters it has. No separator is
written in a component, so the pairs are read back from the whole query, in their order and with
their repetitions.

## Main definitions

* `Form.InComponent`: the characters that can be written for a component.

## Main statements

* `Form.decodeComponent_encodeComponent`: a component is read back.
* `Form.parse_serialize`: so are the pairs of a query.
-/
namespace TorznabGateway.Encoding.Form

open Text

/-! ## What is written -/

/-- Whether a character is visible ASCII, and neither a separator of pairs nor one of those that
are escaped in queries. -/
def InComponent (c : Char) : Prop :=
  0x20 < c.toNat ∧ c.toNat < 0x7F ∧ c ∉ ['"', '#', '&', '\'', '<', '=', '>']

instance (c : Char) : Decidable (InComponent c) :=
  inferInstanceAs (Decidable (_ ∧ _))

theorem inComponent_upperDigit {n : Nat} (h : n < 16) : InComponent (Hex.upperDigit n) := by
  revert n
  decide

theorem inComponent_of_isKept {b : UInt8} (h : isKept b) : InComponent (.ofNat b.toNat) :=
  Percent.forall_byte (p := fun b => isKept b → InComponent (.ofNat b.toNat)) (by decide +kernel)
    b h

theorem inComponent_of_mem_encodeComponent {s : String} {c : Char} (h : c ∈ encodeComponent s) :
    InComponent c := by
  obtain ⟨b, -, hc⟩ := List.mem_flatMap.1 h
  split at hc
  · obtain rfl := List.mem_singleton.1 hc
    decide
  split at hc
  · next kept =>
    obtain rfl := List.mem_singleton.1 hc
    exact inComponent_of_isKept kept
  · rcases Percent.mem_escape hc with rfl | ⟨n, digit, rfl⟩
    · decide
    · exact inComponent_upperDigit digit

theorem mem_encodePair {pair : String × String} {c : Char} (h : c ∈ encodePair pair) :
    InComponent c ∨ c = '=' := by
  simp only [encodePair, List.mem_append, List.mem_cons] at h
  rcases h with h | rfl | h
  · exact .inl (inComponent_of_mem_encodeComponent h)
  · exact .inr rfl
  · exact .inl (inComponent_of_mem_encodeComponent h)

theorem mem_serialize {pairs : List (String × String)} {c : Char} (h : c ∈ serialize pairs) :
    InComponent c ∨ c = '=' ∨ c = '&' := by
  rcases mem_joinWith h with separator | ⟨piece, hp, hc⟩
  · exact .inr (.inr (List.mem_singleton.1 separator))
  · obtain ⟨pair, -, rfl⟩ := List.mem_map.1 hp
    exact (mem_encodePair hc).imp_right .inl

/-- An ASCII character that is not among those written is not among their bytes either. -/
theorem byte_not_mem_encodeChars {cs : List Char} {b : UInt8} (ascii : b.toNat < 0x80)
    (h : Char.ofNat b.toNat ∉ cs) : b ∉ Utf8.encodeChars cs :=
  fun hb => h (Utf8.ofNat_mem_of_mem_encodeChars hb ascii)

/-! ## Components -/

theorem toNat_lt_of_isKept {b : UInt8} (h : isKept b) : b.toNat < 0x80 ∧ b ≠ 0x25 ∧ b ≠ 0x2B := by
  simp [isKept] at h
  refine ⟨by omega, ?_, ?_⟩ <;> rintro rfl <;> simp at h

/-- What a byte of a component stands for before escapes are resolved. -/
def unplus (b : UInt8) : UInt8 :=
  if b == 0x2B then 0x20 else b

theorem unplus_upperDigit {n : Nat} (h : n < 16) :
    unplus (.ofNat (Hex.upperDigit n).toNat) = .ofNat (Hex.upperDigit n).toNat := by
  revert n
  decide

/-- With blanks for its plus signs, a component is a text of which some bytes are escaped. -/
theorem map_unplus_encodeComponent (s : String) :
    (Utf8.encodeChars (encodeComponent s)).map unplus
      = Utf8.encodeChars (Percent.encodeBytes (fun b => isKept b || b == 0x20)
          (Utf8.encode s)) := by
  rw [encodeComponent, Percent.encodeBytes]
  induction Utf8.encode s with
  | nil => rfl
  | cons b bs ih =>
    simp only [List.flatMap_cons, Utf8.encodeChars_append, List.map_append, ih]
    congr 1
    by_cases blank : b = 0x20
    · subst blank
      decide
    by_cases kept : isKept b
    · obtain ⟨ascii, -, plus⟩ := toNat_lt_of_isKept kept
      simp [blank, kept, Percent.encodeChar_ofNat ascii, unplus, plus]
    · have high : b.toNat / 16 < 16 := by have := b.toNat_lt; omega
      have low : b.toNat % 16 < 16 := by omega
      have percent : unplus 0x25 = 0x25 := by decide
      simp [blank, kept, Percent.encodeChars_escape, unplus_upperDigit high,
        unplus_upperDigit low, percent]

/-- A component is read back. -/
theorem decodeComponent_encodeComponent (s : String) :
    decodeComponent (Utf8.encodeChars (encodeComponent s)) = s := by
  have kept (b : UInt8) (h : isKept b || b == 0x20) : b.toNat < 0x80 ∧ b ≠ 0x25 := by
    rcases Bool.or_eq_true_iff.1 h with kept | blank
    · obtain ⟨ascii, percent, -⟩ := toNat_lt_of_isKept kept
      exact ⟨ascii, percent⟩
    · rw [eq_of_beq blank]
      decide
  have bytes := Percent.decodeBytes_encodeBytes_append kept (Utf8.encode s) []
  rw [List.append_nil, ← map_unplus_encodeComponent] at bytes
  unfold decodeComponent
  exact (congrArg Utf8.decodeLossy (bytes.trans (List.append_nil _))).trans
    (Utf8.decodeLossy_encode s)

/-! ## Queries -/

theorem encodeChars_joinWith (separator : List Char) (xs : List (List Char)) :
    Utf8.encodeChars (joinWith separator xs)
      = joinWith (Utf8.encodeChars separator) (xs.map Utf8.encodeChars) := by
  induction xs with
  | nil => rfl
  | cons x xs ih =>
    cases xs with
    | nil => rfl
    | cons y ys =>
      simp only [joinWith, List.map_cons, Utf8.encodeChars_append] at ih ⊢
      rw [ih]

/-- The name and the value in a written pair are told apart. -/
theorem splitFirst_encodePair (pair : String × String) :
    splitFirst 0x3D (Utf8.encodeChars (encodePair pair))
      = (Utf8.encodeChars (encodeComponent pair.1), Utf8.encodeChars (encodeComponent pair.2)) := by
  have bytes : Utf8.encodeChars (encodePair pair)
      = Utf8.encodeChars (encodeComponent pair.1)
        ++ 0x3D :: Utf8.encodeChars (encodeComponent pair.2) := by
    rw [encodePair, Utf8.encodeChars_append, Utf8.encodeChars_cons]
    rfl
  rw [bytes]
  apply splitFirst_append_cons
  apply byte_not_mem_encodeChars (by decide)
  intro h
  exact absurd (inComponent_of_mem_encodeComponent h) (by decide)

theorem separator_not_mem_encodePair (pair : String × String) :
    0x26 ∉ Utf8.encodeChars (encodePair pair) := by
  apply byte_not_mem_encodeChars (by decide)
  intro h
  rcases mem_encodePair h with component | separator
  · exact absurd component (by decide)
  · exact absurd separator (by decide)

/-- The pieces of a written query are the written pairs. -/
theorem splitOn_serialize {pairs : List (String × String)} (some_pair : pairs ≠ []) :
    splitOn 0x26 (Utf8.encodeChars (serialize pairs))
      = (pairs.map encodePair).map Utf8.encodeChars := by
  rw [serialize, encodeChars_joinWith]
  apply splitOn_joinWith (by simpa using some_pair)
  intro piece hp
  obtain ⟨_, hx, rfl⟩ := List.mem_map.1 hp
  obtain ⟨pair, -, rfl⟩ := List.mem_map.1 hx
  exact separator_not_mem_encodePair pair

/-- The pair that a piece of a query stands for. -/
def parsePiece? (piece : List UInt8) : Option (String × String) :=
  if piece.isEmpty then none
  else
    let (name, value) := splitFirst 0x3D piece
    some (decodeComponent name, decodeComponent value)

theorem parse_eq_filterMap (query : List UInt8) :
    parse query = (splitOn 0x26 query).filterMap parsePiece? := rfl

theorem parsePiece?_encodePair (pair : String × String) :
    parsePiece? (Utf8.encodeChars (encodePair pair)) = some pair := by
  have some_byte : Utf8.encodeChars (encodePair pair) ≠ [] := by simp [encodePair, Utf8.encodeChar]
  simp [parsePiece?, some_byte, splitFirst_encodePair, decodeComponent_encodeComponent]

/-- Pairs are read back from what is written for them. -/
theorem parse_serialize (pairs : List (String × String)) :
    parse (Utf8.encodeChars (serialize pairs)) = pairs := by
  by_cases none : pairs = []
  · rw [none]
    rfl
  · rw [parse_eq_filterMap, splitOn_serialize none, List.filterMap_map, List.filterMap_map]
    calc pairs.filterMap ((parsePiece? ∘ Utf8.encodeChars) ∘ encodePair)
        = pairs.filterMap some := congrArg (List.filterMap · pairs) (funext parsePiece?_encodePair)
      _ = pairs := List.filterMap_some

/-- A pair that is written behind a query is read behind the pairs of the query. -/
theorem parse_append_encodePair (query : List UInt8) (pair : String × String) :
    parse (query ++ 0x26 :: Utf8.encodeChars (encodePair pair)) = parse query ++ [pair] := by
  rw [parse_eq_filterMap, splitOn_append_separator,
    splitOn_of_not_mem (separator_not_mem_encodePair pair), List.filterMap_append,
    ← parse_eq_filterMap]
  simp [parsePiece?_encodePair]

end TorznabGateway.Encoding.Form
