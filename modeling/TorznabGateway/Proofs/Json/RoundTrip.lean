import TorznabGateway.Json.Record
import TorznabGateway.Proofs.Json.Literal
import TorznabGateway.Text.Scan

/-!
# Values are read back

Every JSON value whose numbers are integers is read back from its compact form. A value may be
followed by what stands after one inside an array or an object, so that arrays and objects are read
back by induction over the tree. Fuel is counted in bytes: twice the length of what is read.

## Main definitions

* `Follows`: what may stand after a value.
* `Integral`: the values whose numbers are integers.
* `spelled`: a value with its texts as they are written.

## Main statements

* `readNumber_integer`: an integer is read back, with its sign.
* `readValue_chars`: a value is read back, whatever may stand after it follows.
* `readSpelled?_chars`, `parse?_chars`: a document is read back.
* `Record.ofSpelled?_spelled`: an object with fields only is read as a record.
-/
namespace TorznabGateway.Json

open Text Quoted

/-! ## Numbers -/

/-- What may follow a value: nothing, a comma or a closing bracket. -/
def Follows (rest : List UInt8) : Prop :=
  ∀ b ∈ rest.head?, b = 0x2C ∨ b = 0x5D ∨ b = 0x7D

theorem encodeChar_decimal {n : Nat} (h : n < 10) :
    Utf8.encodeChar (Decimal.digit n) = [.ofNat (0x30 + n)] := by
  revert n
  decide

/-- The bytes of a numeral are decimal digits. -/
theorem isDigit_of_mem_digits {n : Nat} {b : UInt8}
    (h : b ∈ Utf8.encodeChars (Decimal.digits n)) : isDigit b := by
  have one : ∀ k < 10, isDigit (.ofNat (0x30 + k)) := by decide
  induction n using Decimal.digits.induct with
  | case1 n hn =>
    rw [Decimal.digits, if_pos hn, Utf8.encodeChars_cons, encodeChar_decimal hn] at h
    rw [List.mem_singleton.1 h]
    exact one n hn
  | case2 n hn ih =>
    rw [Decimal.digits, if_neg hn, Utf8.encodeChars_append, List.mem_append] at h
    rcases h with h | h
    · exact ih h
    · rw [Utf8.encodeChars_cons, encodeChar_decimal (by omega)] at h
      rw [List.mem_singleton.1 h]
      exact one _ (by omega)

/-- A numeral is read back from its bytes. -/
theorem digitsValue_digits (n : Nat) : digitsValue (Utf8.encodeChars (Decimal.digits n)) = n := by
  have one : ∀ k < 10, (UInt8.ofNat (0x30 + k)).toNat - 0x30 = k := by decide
  induction n using Decimal.digits.induct with
  | case1 n hn =>
    rw [Decimal.digits, if_pos hn, Utf8.encodeChars_cons, encodeChar_decimal hn]
    exact (Nat.zero_add _).trans (one n hn)
  | case2 n hn ih =>
    rw [digitsValue] at ih
    rw [Decimal.digits, if_neg hn, Utf8.encodeChars_append, Utf8.encodeChars_cons,
      encodeChar_decimal (by omega), digitsValue, List.foldl_append, ih]
    change 10 * (n / 10) + ((UInt8.ofNat (0x30 + n % 10)).toNat - 0x30) = n
    rw [one (n % 10) (by omega)]
    omega

theorem digitBytes_zero : Utf8.encodeChars (Decimal.digits 0) = [0x30] := by
  rw [Decimal.digits, if_pos (by decide)]
  rfl

/-- The bytes of a numeral other than zero's: a digit other than zero, then digits. -/
theorem digitBytes_pos {n : Nat} (h : 0 < n) :
    ∃ b ds, Utf8.encodeChars (Decimal.digits n) = b :: ds ∧ b ≠ 0x30 ∧ isDigit b := by
  induction n using Decimal.digits.induct with
  | case1 n hn =>
    have one : ∀ k < 10, 0 < k → UInt8.ofNat (0x30 + k) ≠ 0x30 ∧ isDigit (.ofNat (0x30 + k)) := by
      decide
    refine ⟨.ofNat (0x30 + n), [], ?_, one n hn h⟩
    rw [Decimal.digits, if_pos hn, Utf8.encodeChars_cons, encodeChar_decimal hn]
    rfl
  | case2 n hn ih =>
    obtain ⟨b, ds, hb, hz⟩ := ih (by omega)
    refine ⟨b, ds ++ Utf8.encodeChars [Decimal.digit (n % 10)], ?_, hz⟩
    rw [Decimal.digits, if_neg hn, Utf8.encodeChars_append, hb, List.cons_append]

theorem Follows.isDigit_head {rest : List UInt8} (h : Follows rest) :
    ∀ b ∈ rest.head?, isDigit b = false := by
  intro b hb
  rcases h b hb with rfl | rfl | rfl <;> rfl

/-- The digits in front of what may follow a value are cut off as a whole. -/
theorem readDigits_append {ds rest : List UInt8} (hne : ds ≠ []) (hd : ∀ b ∈ ds, isDigit b)
    (h : Follows rest) : readDigits (ds ++ rest) = some (ds, rest) := by
  have taken : (ds ++ rest).takeWhile isDigit = ds := takeWhile_append_of_head? hd h.isDigit_head
  have dropped : (ds ++ rest).dropWhile isDigit = rest :=
    dropWhile_append_of_head? hd h.isDigit_head
  rw [readDigits, taken, dropped]
  cases ds with
  | nil => exact absurd rfl hne
  | cons b ds => rfl

theorem readWhole_digits (n : Nat) {rest : List UInt8} (h : Follows rest) :
    readWhole (Utf8.encodeChars (Decimal.digits n) ++ rest)
      = some (Utf8.encodeChars (Decimal.digits n), rest) := by
  rcases Nat.eq_zero_or_pos n with rfl | hn
  · rw [digitBytes_zero]
    cases rest with
    | nil => rfl
    | cons b rest =>
      have := h.isDigit_head b rfl
      simp [readWhole, this]
  · obtain ⟨b, ds, hb, hz, -⟩ := digitBytes_pos hn
    have hd : ∀ x ∈ b :: ds, isDigit x := fun x hx => isDigit_of_mem_digits (hb ▸ hx)
    rw [hb]
    rw [List.cons_append, readWhole, ← List.cons_append]
    · exact readDigits_append (List.cons_ne_nil b ds) hd h
    · intro rest' e
      exact hz (List.cons.inj e).1

/-- No fraction and no exponent begins with what may follow a value. -/
theorem Follows.readFraction {rest : List UInt8} (h : Follows rest) :
    readFraction rest = some ([], rest) ∧ readExponent rest = some ([], rest) := by
  cases rest with
  | nil => exact ⟨rfl, rfl⟩
  | cons b rest => rcases h b rfl with rfl | rfl | rfl <;> exact ⟨rfl, rfl⟩

theorem readUnsigned_digits (negative : Bool) (n : Nat) {rest : List UInt8} (h : Follows rest) :
    readUnsigned negative (Utf8.encodeChars (Decimal.digits n) ++ rest)
      = some (.integer negative n, rest) := by
  rw [readUnsigned, readWhole_digits n h]
  simp only [h.readFraction.1, h.readFraction.2, List.isEmpty_nil, Bool.and_self, if_true,
    digitsValue_digits]

theorem digits_head (n : Nat) :
    ∃ b ds, Utf8.encodeChars (Decimal.digits n) = b :: ds ∧ isDigit b := by
  rcases Nat.eq_zero_or_pos n with rfl | hn
  · exact ⟨0x30, [], digitBytes_zero, rfl⟩
  · obtain ⟨b, ds, hb, -, hd⟩ := digitBytes_pos hn
    exact ⟨b, ds, hb, hd⟩

/-- An integer is read back, with its sign. -/
theorem readNumber_integer (negative : Bool) (n : Nat) {rest : List UInt8} (h : Follows rest) :
    readNumber (Utf8.encodeChars (Number.integer negative n).chars ++ rest)
      = some (.integer negative n, rest) := by
  cases negative with
  | true => exact readUnsigned_digits true n h
  | false =>
    obtain ⟨b, ds, hb, hd⟩ := digits_head n
    have minus : b ≠ 0x2D := by rintro rfl; cases hd
    have read := readUnsigned_digits false n h
    rw [hb, List.cons_append] at read
    rw [Number.chars, if_neg Bool.false_ne_true, hb, List.cons_append, readNumber, read]
    intro rest' e
    exact minus (List.cons.inj e).1

/-! ## First bytes -/

/-- A byte that is no blank and does not close an array. -/
def IsStart (b : UInt8) : Prop :=
  isBlank b = false ∧ b ≠ 0x5D

theorem skipBlanks_cons {b : UInt8} (h : isBlank b = false) (rest : List UInt8) :
    skipBlanks (b :: rest) = b :: rest := by
  simp [skipBlanks, h]

/-- The first byte of a number. -/
def StartsNumber (b : UInt8) : Prop :=
  b = 0x2D ∨ isDigit b

instance (b : UInt8) : Decidable (StartsNumber b) :=
  inferInstanceAs (Decidable (_ ∨ _))

theorem StartsNumber.isStart {b : UInt8} (h : StartsNumber b) : IsStart b := by
  constructor
  · cases hb : isBlank b with
    | false => rfl
    | true =>
      simp only [isBlank, Bool.or_eq_true, beq_iff_eq] at hb
      rcases hb with ((rfl | rfl) | rfl) | rfl <;> exact absurd h (by decide)
  · rintro rfl
    exact absurd h (by decide)

theorem integer_start (negative : Bool) (n : Nat) :
    ∃ b bs, Utf8.encodeChars (Number.integer negative n).chars = b :: bs ∧ StartsNumber b := by
  cases negative with
  | true => exact ⟨0x2D, _, rfl, .inl rfl⟩
  | false =>
    obtain ⟨b, ds, hb, hd⟩ := digits_head n
    exact ⟨b, ds, hb, .inr hd⟩

theorem readValue_number {b : UInt8} (h : StartsNumber b) (fuel : Nat) (rest : List UInt8) :
    readValue (fuel + 1) (b :: rest)
      = (readNumber (b :: rest)).map fun p => (.number p.1, p.2) := by
  rw [readValue, skipBlanks_cons h.isStart.1]
  -- The other six alternatives are for bytes that no number begins with.
  split
  case h_7 => rfl
  all_goals
    next e =>
      have hb := (List.cons.inj e).1
      subst hb
      exact absurd h (by decide)

theorem readValue_array {b : UInt8} (h : IsStart b) (fuel : Nat) (rest : List UInt8) :
    readValue (fuel + 1) (0x5B :: b :: rest)
      = (readElements fuel (b :: rest)).map fun p => (.array p.1, p.2) := by
  rw [readValue, skipBlanks_cons rfl]
  simp only [skipBlanks_cons h.1]
  split
  · next e => exact absurd (List.cons.inj e).1 h.2
  · rfl

theorem readValue_object (fuel : Nat) (rest : List UInt8) :
    readValue (fuel + 1) (0x7B :: 0x22 :: rest)
      = (readMembers fuel (0x22 :: rest)).map fun p => (.object p.1, p.2) := by
  rfl

theorem readValue_text (s : String) (fuel : Nat) (rest : List UInt8) :
    readValue (fuel + 1) (0x22 :: (spell s ++ 0x22 :: rest)) = some (.text (spell s), rest) := by
  rw [readValue, skipBlanks_cons rfl]
  simp only [readLiteral_spell, Option.map_some]

/-! ## Values -/

mutual

/-- Whether every number of a value is an integer. -/
def Integral {σ : Type} : Tree σ → Prop
  | .number (.decimal _) => False
  | .array items => IntegralItems items
  | .object members => IntegralMembers members
  | _ => True

/-- Whether every number of the items of an array is an integer. -/
def IntegralItems {σ : Type} : List (Tree σ) → Prop
  | [] => True
  | v :: vs => Integral v ∧ IntegralItems vs

/-- Whether every number of the members of an object is an integer. -/
def IntegralMembers {σ : Type} : List (σ × Tree σ) → Prop
  | [] => True
  | (_, v) :: ms => Integral v ∧ IntegralMembers ms

end

section

variable {σ τ : Type}

theorem integralItems_map {f : τ → Tree σ} {xs : List τ} (h : ∀ x ∈ xs, Integral (f x)) :
    IntegralItems (xs.map f) := by
  induction xs with
  | nil => trivial
  | cons x xs ih =>
    rw [List.forall_mem_cons] at h
    exact ⟨h.1, ih h.2⟩

theorem integralMembers_append {ms ns : List (σ × Tree σ)} :
    IntegralMembers (ms ++ ns) ↔ IntegralMembers ms ∧ IntegralMembers ns := by
  induction ms with
  | nil => simp [IntegralMembers]
  | cons m ms ih => rw [List.cons_append, IntegralMembers, IntegralMembers, ih, and_assoc]

theorem integralMembers_optionMember {f : τ → Json} (h : ∀ x, Integral (f x)) (name : String)
    (x : Option τ) : IntegralMembers (optionMember name (x.map f)) := by
  cases x with
  | none => trivial
  | some x => exact ⟨h x, trivial⟩

end

mutual

/-- A value with its texts as they are written. -/
def spelled : Json → Spelled
  | .null => .null
  | .boolean b => .boolean b
  | .number n => .number n
  | .text s => .text (spell s)
  | .array items => .array (spelledItems items)
  | .object members => .object (spelledMembers members)

/-- The items of an array with their texts as they are written. -/
def spelledItems : List Json → List Spelled
  | [] => []
  | v :: vs => spelled v :: spelledItems vs

/-- The members of an object with their texts as they are written. -/
def spelledMembers : List (String × Json) → List (List UInt8 × Spelled)
  | [] => []
  | (k, v) :: ms => (spell k, spelled v) :: spelledMembers ms

end

theorem bytes_quoted (s : String) :
    Utf8.encodeChars (quoted s) = 0x22 :: (spell s ++ [0x22]) := by
  rw [quoted, List.cons_append, Utf8.encodeChars_cons, Utf8.encodeChars_append]
  rfl

theorem bytes_array (items : List Json) :
    Utf8.encodeChars (chars (.array items))
      = 0x5B :: (Utf8.encodeChars (itemsChars items) ++ [0x5D]) := by
  rw [chars, List.cons_append, Utf8.encodeChars_cons, Utf8.encodeChars_append]
  rfl

theorem bytes_object (members : List (String × Json)) :
    Utf8.encodeChars (chars (.object members))
      = 0x7B :: (Utf8.encodeChars (membersChars members) ++ [0x7D]) := by
  rw [chars, List.cons_append, Utf8.encodeChars_cons, Utf8.encodeChars_append]
  rfl

theorem bytes_items (v w : Json) (vs : List Json) :
    Utf8.encodeChars (itemsChars (v :: w :: vs))
      = Utf8.encodeChars (chars v) ++ 0x2C :: Utf8.encodeChars (itemsChars (w :: vs)) := by
  rw [itemsChars, Utf8.encodeChars_append, Utf8.encodeChars_cons]
  rfl

theorem bytes_member (k : String) (v : Json) :
    Utf8.encodeChars (membersChars [(k, v)])
      = 0x22 :: (spell k ++ 0x22 :: 0x3A :: Utf8.encodeChars (chars v)) := by
  rw [membersChars, Utf8.encodeChars_append, bytes_quoted, Utf8.encodeChars_cons]
  simp only [List.cons_append, List.append_assoc, List.nil_append]
  rfl

theorem bytes_members (k : String) (v : Json) (m : String × Json) (ms : List (String × Json)) :
    Utf8.encodeChars (membersChars ((k, v) :: m :: ms))
      = Utf8.encodeChars (membersChars [(k, v)])
        ++ 0x2C :: Utf8.encodeChars (membersChars (m :: ms)) := by
  rw [membersChars, membersChars, Utf8.encodeChars_append, Utf8.encodeChars_cons]
  rfl

/-- The first byte of a value. -/
theorem bytes_start {v : Json} (h : Integral v) :
    ∃ b bs, Utf8.encodeChars (chars v) = b :: bs ∧ IsStart b := by
  cases v with
  | null => exact ⟨_, _, rfl, by decide, by decide⟩
  | boolean b => cases b <;> exact ⟨_, _, rfl, by decide, by decide⟩
  | number n =>
    cases n with
    | decimal => exact h.elim
    | integer negative n =>
      obtain ⟨b, bs, hb, hs⟩ := integer_start negative n
      exact ⟨b, bs, hb, hs.isStart⟩
  | text s => exact ⟨_, _, bytes_quoted s, by decide, by decide⟩
  | array items => exact ⟨_, _, bytes_array items, by decide, by decide⟩
  | object members => exact ⟨_, _, bytes_object members, by decide, by decide⟩

theorem bytes_items_start {v : Json} {vs : List Json} (h : IntegralItems (v :: vs)) :
    ∃ b bs, Utf8.encodeChars (itemsChars (v :: vs)) = b :: bs ∧ IsStart b := by
  obtain ⟨b, bs, hb, hs⟩ := bytes_start h.1
  cases vs with
  | nil => exact ⟨b, bs, hb, hs⟩
  | cons w vs => exact ⟨b, _, by rw [bytes_items, hb, List.cons_append], hs⟩

theorem bytes_members_start (k : String) (v : Json) (ms : List (String × Json)) :
    ∃ bs, Utf8.encodeChars (membersChars ((k, v) :: ms)) = 0x22 :: bs := by
  cases ms with
  | nil => exact ⟨_, bytes_member k v⟩
  | cons m ms => exact ⟨_, by rw [bytes_members, bytes_member, List.cons_append]⟩

theorem length_bytes_pos {v : Json} (h : Integral v) : 0 < (Utf8.encodeChars (chars v)).length := by
  obtain ⟨b, bs, hb, -⟩ := bytes_start h
  rw [hb]
  exact Nat.succ_pos _

theorem follows_comma (rest : List UInt8) : Follows (0x2C :: rest) := by
  intro b hb
  exact .inl (Option.some.inj hb).symm

theorem follows_bracket (rest : List UInt8) : Follows (0x5D :: rest) := by
  intro b hb
  exact .inr (.inl (Option.some.inj hb).symm)

theorem follows_brace (rest : List UInt8) : Follows (0x7D :: rest) := by
  intro b hb
  exact .inr (.inr (Option.some.inj hb).symm)

/-- An element that is not the last. -/
theorem readElements_comma {fuel : Nat} {bs rest : List UInt8} {v : Spelled}
    (h : readValue fuel bs = some (v, 0x2C :: rest)) :
    readElements (fuel + 1) bs = (readElements fuel rest).map fun p => (v :: p.1, p.2) := by
  rw [readElements, h]
  rfl

/-- The last element. -/
theorem readElements_bracket {fuel : Nat} {bs rest : List UInt8} {v : Spelled}
    (h : readValue fuel bs = some (v, 0x5D :: rest)) :
    readElements (fuel + 1) bs = some ([v], rest) := by
  rw [readElements, h]
  rfl

/-- A member that is not the last. -/
theorem readMembers_comma {fuel : Nat} {bs rest : List UInt8} {k : String} {v : Spelled}
    (h : readValue fuel bs = some (v, 0x2C :: rest)) :
    readMembers (fuel + 1) (0x22 :: (spell k ++ 0x22 :: 0x3A :: bs))
      = (readMembers fuel rest).map fun p => ((spell k, v) :: p.1, p.2) := by
  rw [readMembers, skipBlanks_cons rfl]
  simp only [readLiteral_spell]
  rw [skipBlanks_cons rfl]
  simp only [h]
  rfl

/-- The last member. -/
theorem readMembers_brace {fuel : Nat} {bs rest : List UInt8} {k : String} {v : Spelled}
    (h : readValue fuel bs = some (v, 0x7D :: rest)) :
    readMembers (fuel + 1) (0x22 :: (spell k ++ 0x22 :: 0x3A :: bs))
      = some ([(spell k, v)], rest) := by
  rw [readMembers, skipBlanks_cons rfl]
  simp only [readLiteral_spell]
  rw [skipBlanks_cons rfl]
  simp only [h]
  rfl

-- By induction over the tree. Going into a bracket and going along a list use one unit of fuel each
-- and pass one byte at least, so that the bound of twice the bytes carries through.
mutual

/-- A value is read back, whatever may stand after it follows, with fuel for twice its length. -/
theorem readValue_chars (v : Json) (hv : Integral v) (fuel : Nat)
    (hf : 2 * (Utf8.encodeChars (chars v)).length ≤ fuel + 1) {rest : List UInt8}
    (h : Follows rest) :
    readValue (fuel + 1) (Utf8.encodeChars (chars v) ++ rest) = some (spelled v, rest) := by
  match v with
  | .null => rfl
  | .boolean true => rfl
  | .boolean false => rfl
  | .number (.decimal _) => exact hv.elim
  | .number (.integer negative n) =>
    have read := readNumber_integer negative n h
    obtain ⟨b, bs, hb, hs⟩ := integer_start negative n
    rw [chars, hb, List.cons_append, readValue_number hs, ← List.cons_append, ← hb, read]
    rfl
  | .text s =>
    rw [chars, bytes_quoted, List.cons_append, List.append_assoc]
    exact readValue_text s fuel rest
  | .array [] => rfl
  | .array (v :: vs) =>
    obtain ⟨b, bs, hb, hs⟩ := bytes_items_start hv
    rw [bytes_array] at hf ⊢
    rw [List.length_cons, List.length_append] at hf
    obtain ⟨fuel, rfl⟩ : ∃ f, fuel = f + 1 := ⟨fuel - 1, by omega⟩
    have items := readElements_itemsChars v vs hv fuel (by omega) rest
    rw [hb, List.cons_append] at items
    rw [hb]
    simp only [List.cons_append, List.append_assoc, List.nil_append]
    rw [readValue_array hs, items]
    rfl
  | .object [] => rfl
  | .object ((k, v) :: ms) =>
    obtain ⟨bs, hb⟩ := bytes_members_start k v ms
    rw [bytes_object] at hf ⊢
    rw [List.length_cons, List.length_append] at hf
    obtain ⟨fuel, rfl⟩ : ∃ f, fuel = f + 1 := ⟨fuel - 1, by omega⟩
    have members := readMembers_membersChars k v ms hv fuel (by omega) rest
    rw [hb, List.cons_append] at members
    rw [hb]
    simp only [List.cons_append, List.append_assoc, List.nil_append]
    rw [readValue_object, members]
    rfl
termination_by sizeOf v

theorem readElements_itemsChars (v : Json) (vs : List Json) (hv : IntegralItems (v :: vs))
    (fuel : Nat) (hf : 2 * (Utf8.encodeChars (itemsChars (v :: vs))).length ≤ fuel)
    (rest : List UInt8) :
    readElements (fuel + 1) (Utf8.encodeChars (itemsChars (v :: vs)) ++ 0x5D :: rest)
      = some (spelledItems (v :: vs), rest) := by
  have pos := length_bytes_pos hv.1
  match vs with
  | [] =>
    rw [itemsChars] at hf ⊢
    obtain ⟨fuel, rfl⟩ : ∃ f, fuel = f + 1 := ⟨fuel - 1, by omega⟩
    have value := readValue_chars v hv.1 fuel (by omega) (follows_bracket rest)
    exact readElements_bracket value
  | w :: vs =>
    rw [bytes_items] at hf ⊢
    rw [List.length_append, List.length_cons] at hf
    obtain ⟨fuel, rfl⟩ : ∃ f, fuel = f + 1 := ⟨fuel - 1, by omega⟩
    have items := readElements_itemsChars w vs hv.2 fuel (by omega) rest
    have value := readValue_chars v hv.1 fuel (by omega)
      (follows_comma (Utf8.encodeChars (itemsChars (w :: vs)) ++ 0x5D :: rest))
    rw [List.append_assoc, List.cons_append, readElements_comma value, items]
    rfl
termination_by sizeOf (v :: vs)

theorem readMembers_membersChars (k : String) (v : Json) (ms : List (String × Json))
    (hv : IntegralMembers ((k, v) :: ms)) (fuel : Nat)
    (hf : 2 * (Utf8.encodeChars (membersChars ((k, v) :: ms))).length ≤ fuel)
    (rest : List UInt8) :
    readMembers (fuel + 1) (Utf8.encodeChars (membersChars ((k, v) :: ms)) ++ 0x7D :: rest)
      = some (spelledMembers ((k, v) :: ms), rest) := by
  match ms with
  | [] =>
    rw [bytes_member] at hf ⊢
    simp only [List.length_cons, List.length_append] at hf
    obtain ⟨fuel, rfl⟩ : ∃ f, fuel = f + 1 := ⟨fuel - 1, by omega⟩
    have value := readValue_chars v hv.1 fuel (by omega) (follows_brace rest)
    simp only [List.cons_append, List.append_assoc]
    exact readMembers_brace value
  | (l, w) :: ms =>
    rw [bytes_members, bytes_member] at hf ⊢
    simp only [List.length_cons, List.length_append] at hf
    obtain ⟨fuel, rfl⟩ : ∃ f, fuel = f + 1 := ⟨fuel - 1, by omega⟩
    have members := readMembers_membersChars l w ms hv.2 fuel (by omega) rest
    have value := readValue_chars v hv.1 fuel (by omega)
      (follows_comma (Utf8.encodeChars (membersChars ((l, w) :: ms)) ++ 0x7D :: rest))
    simp only [List.cons_append, List.append_assoc]
    rw [readMembers_comma value, members]
    rfl
termination_by sizeOf ((k, v) :: ms)

end

/-! ## Documents -/

/-- A document is read back with its texts as they are written. -/
theorem readSpelled?_chars {v : Json} (h : Integral v) :
    readSpelled? (Utf8.encodeChars (chars v)) = some (spelled v) := by
  have nothing : Follows [] := by
    intro b hb
    cases hb
  have read := readValue_chars v h _ (Nat.le_succ _) nothing
  rw [List.append_nil] at read
  rw [readSpelled?, read]
  rfl

mutual

theorem mapText?_spelled (v : Json) : mapText? read? (spelled v) = some v := by
  match v with
  | .null => rfl
  | .boolean _ => rfl
  | .number _ => rfl
  | .text s => rw [spelled, mapText?, read?_spell, Option.map_some]
  | .array items => rw [spelled, mapText?, mapTextItems?_spelledItems items, Option.map_some]
  | .object members =>
    rw [spelled, mapText?, mapTextMembers?_spelledMembers members, Option.map_some]
termination_by sizeOf v

theorem mapTextItems?_spelledItems (items : List Json) :
    mapTextItems? read? (spelledItems items) = some items := by
  match items with
  | [] => rfl
  | v :: vs => rw [spelledItems, mapTextItems?, mapText?_spelled v, mapTextItems?_spelledItems vs]
termination_by sizeOf items

theorem mapTextMembers?_spelledMembers (members : List (String × Json)) :
    mapTextMembers? read? (spelledMembers members) = some members := by
  match members with
  | [] => rfl
  | (k, v) :: ms =>
    rw [spelledMembers, mapTextMembers?, read?_spell, mapText?_spelled v,
      mapTextMembers?_spelledMembers ms]
termination_by sizeOf members

end

/-- A document is read back with its texts. -/
theorem parse?_chars {v : Json} (h : Integral v) :
    parse? (Utf8.encodeChars (chars v)) = some v := by
  rw [parse?, readSpelled?_chars h, Option.bind_some, mapText?_spelled]

/-! ## Records -/

namespace Record

/-- Members that are all fields, each written once, are known members. -/
theorem knownMembers?_spelledMembers (names : List String) (members : List (String × Json))
    (known : ∀ m ∈ members, m.1 ∈ names) (once : (members.map (·.1)).Nodup) :
    knownMembers? names (spelledMembers members)
      = some (members.map fun m => (m.1, spelled m.2)) := by
  induction members with
  | nil => rfl
  | cons m ms ih =>
    obtain ⟨k, v⟩ := m
    obtain ⟨fresh, once⟩ := List.nodup_cons.1 once
    have field : names.contains k = true :=
      List.contains_iff_mem.2 (known (k, v) List.mem_cons_self)
    have first : ((ms.map fun m => (m.1, spelled m.2)).any (·.1 == k)) = false := by
      rw [List.any_eq_false]
      intro x hx e
      obtain ⟨m, hm, rfl⟩ := List.mem_map.1 hx
      exact fresh (List.mem_map.2 ⟨m, hm, eq_of_beq e⟩)
    rw [spelledMembers, knownMembers?, read?_spell,
      ih (fun m hm => known m (List.mem_cons_of_mem _ hm)) once]
    simp only [field, first, if_true, Bool.false_eq_true, if_false]
    rfl

/-- An object of fields, each written once, is read as the record it writes. -/
theorem ofSpelled?_spelled (names : List String) (members : List (String × Json))
    (known : ∀ m ∈ members, m.1 ∈ names) (once : (members.map (·.1)).Nodup) :
    ofSpelled? names (spelled (.object members)) = ofJson? .refused names (.object members) := by
  have texts : (members.map fun m => (m.1, spelled m.2)).mapM
      (fun m => (mapText? read? m.2).map fun w => (m.1, w)) = some members := by
    clear known once
    induction members with
    | nil => rfl
    | cons m ms ih => simp [mapText?_spelled, ih]
  rw [spelled, ofSpelled?, knownMembers?_spelledMembers names members known once]
  simp only [Option.bind_eq_bind, Option.bind_some, texts]

end Record

end TorznabGateway.Json
