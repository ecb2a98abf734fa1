import TorznabGateway.Proofs.Net.Ip
import TorznabGateway.Text.Utf8.RoundTrip

/-!
# Hosts are read back

The host of a web-like URL has a normal form, and reading the normal form gives it back. A domain
name has no escapes by then, and a lawful way to bring names into ASCII changes it no more; an
address is written from its numbers, and these are read back.

## Main definitions

* `Url.DomainToAscii.Lawful`: what is relied on of a way to bring domain names into ASCII.
* `Url.HostText`: hosts that are read back, and that nothing in an authority ends.

## Main statements

* `Url.lawful_asciiDomain?`: names that need no tables are brought into ASCII lawfully.
* `Url.readDomain?_v4Chars`: an address of version 4 is read back.
* `Url.hostText_of_readHost?`: whatever was read as a host is read back.
-/
namespace TorznabGateway

open Text Encoding

namespace Url

variable {toAscii : DomainToAscii}

/-! ## Domain names -/

/-- What is relied on of a way to bring domain names into ASCII. -/
structure DomainToAscii.Lawful (toAscii : DomainToAscii) : Prop where
  /-- What has been brought into ASCII is kept. -/
  again : ∀ {name ascii : List Char}, toAscii name = some ascii → toAscii ascii = some ascii
  /-- Numbers with points between are kept. -/
  address : ∀ a b c d : Nat,
    toAscii (IpAddress.v4Chars a b c d) = some (IpAddress.v4Chars a b c d)

theorem exists_digit_of_isDigit {c : Char} (h : c.isDigit) : ∃ n < 10, c = Decimal.digit n := by
  simp only [Char.isDigit, ge_iff_le, Bool.and_eq_true, decide_eq_true_eq,
    UInt32.le_iff_toNat_le] at h
  have low : 48 ≤ c.toNat := h.1
  have high : c.toNat ≤ 57 := h.2
  refine ⟨c.toNat - 48, by omega, ?_⟩
  change c = .ofNat (48 + (c.toNat - 48))
  rw [Nat.add_sub_cancel' low, Char.ofNat_toNat]

/-! ## Addresses of version 4 -/

theorem readBase?_ten {ds : List Char} (h : ∀ d ∈ ds, d.isDigit) :
    readBase? 10 ds = Decimal.readDigits? 0 ds := by
  rw [readBase?]
  -- Digits are added to what was read in front of them.
  generalize 0 = acc
  induction ds generalizing acc with
  | nil => rfl
  | cons d ds ih =>
    rw [List.forall_mem_cons] at h
    obtain ⟨v, small, hex, decimal⟩ : ∃ v < 10, Hex.digitValue? d = some v
        ∧ Decimal.digitValue? d = some v := by
      have digit : '0' ≤ d ∧ d ≤ '9' := by simpa [Char.isDigit, Char.le_def] using h.1
      refine ⟨d.toNat - '0'.toNat, ?_, if_pos digit, if_pos digit⟩
      have high : d.toNat ≤ 57 := UInt32.le_iff_toNat_le.1 digit.2
      change d.toNat - 48 < 10
      omega
    rw [List.foldlM_cons, hex, Decimal.readDigits?, decimal]
    simp [small, ih h.2]

theorem readPart?_digits (n : Nat) : readPart? (Decimal.digits n) = some n := by
  have ten : readBase? 10 (Decimal.digits n) = some n := by
    rw [readBase?_ten fun _ => Decimal.isDigit_of_mem, Decimal.readDigits?_digits]
  rcases Nat.eq_zero_or_pos n with rfl | positive
  · decide +kernel
  · have no_zero := Decimal.head?_digits positive
    have some_digit := Decimal.digits_ne_nil n
    unfold readPart?
    split <;> simp_all

/-- Add a part of an address at its place. -/
def addPart (n : Nat) : Nat × Nat → Nat
  | (p, i) => n + p * Nat.pow 256 (3 - i)

theorem foldl_addPart_add (parts : List (Nat × Nat)) (n m : Nat) :
    parts.foldl addPart (n + m) = parts.foldl addPart n + m := by
  induction parts generalizing n with
  | nil => rfl
  | cons part parts ih =>
    rw [List.foldl_cons, List.foldl_cons, ← ih, addPart, addPart, Nat.add_right_comm]

/-- A part below 256 at its place leaves less than the place in front of it is worth. -/
theorem foldl_addPart_lt {front : List Nat} {k last : Nat} (few : k + front.length ≤ 3)
    (octets : ∀ p ∈ front, p ≤ 255) (rest : last < Nat.pow 256 (4 - (k + front.length))) :
    (front.zipIdx k).foldl addPart last < Nat.pow 256 (4 - k) := by
  induction front generalizing k with
  | nil => exact rest
  | cons p front ih =>
    rw [List.forall_mem_cons] at octets
    rw [List.length_cons] at few rest
    have place : 4 - (k + 1) = 3 - k := by omega
    have worth : Nat.pow 256 (4 - k) = 256 * Nat.pow 256 (3 - k) := by
      rw [show 4 - k = 3 - k + 1 by omega]
      exact Nat.pow_succ'
    have below : (front.zipIdx (k + 1)).foldl addPart last < Nat.pow 256 (3 - k) := by
      rw [← place]
      exact ih (by omega) octets.2 (by rwa [Nat.add_right_comm, Nat.add_assoc])
    have upTo : p * Nat.pow 256 (3 - k) ≤ 255 * Nat.pow 256 (3 - k) :=
      Nat.mul_le_mul_right _ octets.1
    rw [List.zipIdx_cons, List.foldl_cons, addPart, foldl_addPart_add, worth]
    omega

theorem exists_octets {parts : List Nat} {host : List Char} (h : address? parts = some host) :
    ∃ a b c d, a ≤ 255 ∧ b ≤ 255 ∧ c ≤ 255 ∧ d ≤ 255 ∧ host = IpAddress.v4Chars a b c d := by
  unfold address? at h
  split at h
  · simp at h
  · next last before _ =>
    dsimp only at h
    split at h
    · simp at h
    · next bounds =>
      simp only [not_or, Nat.not_lt, Nat.not_le, List.any_eq_true, decide_eq_true_eq,
        not_exists, not_and] at bounds
      have number := foldl_addPart_lt (k := 0) (by omega) bounds.2.1 (by simpa using bounds.2.2)
      have all : Nat.pow 256 (4 - 0) = 4294967296 := by decide
      refine ⟨_, _, _, _, ?_, ?_, ?_, ?_, (Option.some.inj h).symm⟩
      · change (before.reverse.zipIdx.foldl addPart last) / 16777216 ≤ 255
        omega
      all_goals omega

theorem address?_octets {a b c d : Nat} (ha : a ≤ 255) (hb : b ≤ 255) (hc : c ≤ 255)
    (hd : d ≤ 255) : address? [a, b, c, d] = some (IpAddress.v4Chars a b c d) := by
  have bounds : ¬(3 < [a, b, c].length ∨ [a, b, c].any (255 < ·) ∨ Nat.pow 256 (4 - 3) ≤ d) := by
    simp
    omega
  let n := d + a * 16777216 + b * 65536 + c * 256
  have first : n / 16777216 = a := by omega
  have second : n / 65536 % 256 = b := by omega
  have third : n / 256 % 256 = c := by omega
  have fourth : n % 256 = d := by omega
  change (if 3 < [a, b, c].length ∨ [a, b, c].any (255 < ·) ∨ Nat.pow 256 (4 - 3) ≤ d then none
    else some (IpAddress.v4Chars (n / 16777216) (n / 65536 % 256) (n / 256 % 256) (n % 256))) = _
  rw [if_neg bounds, first, second, third, fourth]

theorem splitOn_v4Chars (a b c d : Nat) :
    splitOn '.' (IpAddress.v4Chars a b c d) = [a, b, c, d].map Decimal.digits := by
  apply splitOn_joinWith (by simp)
  intro _ digits point
  obtain ⟨n, -, rfl⟩ := List.mem_map.1 digits
  exact absurd (Decimal.isDigit_of_mem point) (by decide)

theorem addressParts_v4Chars (a b c d : Nat) :
    addressParts (IpAddress.v4Chars a b c d) = [a, b, c, d].map Decimal.digits := by
  rw [addressParts, splitOn_v4Chars]
  exact if_neg fun empty => Decimal.digits_ne_nil d (Option.some.inj empty.2)

theorem endsInNumber_v4Chars (a b c d : Nat) :
    endsInNumber (IpAddress.v4Chars a b c d) = true := by
  have numeral : (readPart? (Decimal.digits d)).isSome := by rw [readPart?_digits]; rfl
  rw [endsInNumber, addressParts_v4Chars]
  exact Bool.or_eq_true_iff.2 (.inr numeral)

/-! ## Names and addresses -/

theorem decodeBytes_of_not_mem {bs : List UInt8} (h : 0x25 ∉ bs) : Percent.decodeBytes bs = bs := by
  induction bs with
  | nil => rfl
  | cons b bs ih =>
    rw [List.mem_cons, not_or] at h
    rw [Percent.decodeBytes_of_ne bs (Ne.symm h.1), ih h.2]

/-- A name that is kept, and has no escapes, is read as it stands. -/
theorem readDomain?_of_kept {name : List Char} (kept : toAscii name = some name)
    (no_escape : '%' ∉ name) :
    readDomain? toAscii name
      = if name.isEmpty || name.any isForbiddenInDomain then none
        else if endsInNumber name then ((addressParts name).mapM readPart?).bind address?
        else some name := by
  have bytes : 0x25 ∉ Utf8.encodeChars name := fun hb =>
    no_escape (Utf8.ofNat_mem_of_mem_encodeChars hb (by decide))
  have text : Utf8.decodeLossy (Utf8.encodeChars name) = .ofList name := by
    simpa [Utf8.encode] using Utf8.decodeLossy_encode (.ofList name)
  rw [readDomain?, decodeBytes_of_not_mem bytes, text, String.toList_ofList, kept]
  rfl

theorem allowed_of_mem_v4Chars {a b c d : Nat} {ch : Char} (h : ch ∈ IpAddress.v4Chars a b c d) :
    isForbiddenInDomain ch = false := by
  have digits : ∀ n < 10, isForbiddenInDomain (Decimal.digit n) = false := by decide
  rcases IpAddress.mem_v4Chars h with rfl | digit
  · decide
  · obtain ⟨n, small, rfl⟩ := exists_digit_of_isDigit digit
    exact digits n small

theorem v4Chars_ne_nil (a b c d : Nat) : IpAddress.v4Chars a b c d ≠ [] := by
  simp [IpAddress.v4Chars, joinWith, Decimal.digits_ne_nil]

theorem readDomain?_v4Chars (lawful : toAscii.Lawful) {a b c d : Nat} (ha : a ≤ 255) (hb : b ≤ 255)
    (hc : c ≤ 255) (hd : d ≤ 255) :
    readDomain? toAscii (IpAddress.v4Chars a b c d) = some (IpAddress.v4Chars a b c d) := by
  have allowed : ¬((IpAddress.v4Chars a b c d).isEmpty
      || (IpAddress.v4Chars a b c d).any isForbiddenInDomain) := by
    simpa [v4Chars_ne_nil] using fun ch h => allowed_of_mem_v4Chars h
  have parts : ([a, b, c, d].map Decimal.digits).mapM readPart? = some [a, b, c, d] := by
    simp [readPart?_digits]
  rw [readDomain?_of_kept (lawful.address a b c d)
      fun h => absurd (allowed_of_mem_v4Chars h) (by decide),
    if_neg allowed, if_pos (endsInNumber_v4Chars a b c d), addressParts_v4Chars, parts,
    Option.bind_some, address?_octets ha hb hc hd]

/-! ## Names in ASCII -/

theorem asciiDomain?_of_lower {name : List Char}
    (lower : ∀ c ∈ name, c.toNat < 0x80 ∧ c.toLower = c)
    (plain : ∀ label ∈ splitOn '.' name, ¬"xn--".toList.isPrefixOf label) :
    asciiDomain? name = some name := by
  have same : name.map Char.toLower = name :=
    (List.map_congr_left fun c hc => (lower c hc).2).trans (List.map_id' name)
  have ascii : name.all (·.toNat < 0x80) = true :=
    List.all_eq_true.2 fun c hc => decide_eq_true (lower c hc).1
  have unmarked : (splitOn '.' name).any ("xn--".toList.isPrefixOf ·) = false :=
    List.any_eq_false.2 plain
  rw [asciiDomain?, same, ascii, unmarked]
  rfl

/-- Names that need no tables are brought into ASCII lawfully. -/
theorem lawful_asciiDomain? : DomainToAscii.Lawful asciiDomain? where
  again {name ascii} h := by
    unfold asciiDomain? at h
    dsimp only at h
    split at h
    · next allowed =>
      obtain rfl := Option.some.inj h
      simp only [Bool.and_eq_true, List.all_eq_true, decide_eq_true_eq, Bool.not_eq_true',
        List.any_eq_false] at allowed
      refine asciiDomain?_of_lower (fun c hc => ⟨allowed.1 c hc, ?_⟩) allowed.2
      obtain ⟨d, -, rfl⟩ := List.mem_map.1 hc
      exact toLower_toLower d
    · simp at h
  address a b c d := by
    have digits : ∀ n < 10, (Decimal.digit n).toNat < 0x80
        ∧ (Decimal.digit n).toLower = Decimal.digit n := by decide
    refine asciiDomain?_of_lower (fun ch h => ?_) fun label hl marked => ?_
    · rcases IpAddress.mem_v4Chars h with rfl | digit
      · decide
      · obtain ⟨n, small, rfl⟩ := exists_digit_of_isDigit digit
        exact digits n small
    · rw [splitOn_v4Chars] at hl
      obtain ⟨n, -, rfl⟩ := List.mem_map.1 hl
      have first : 'x' ∈ Decimal.digits n := (List.isPrefixOf_iff_prefix.1 marked).subset (by simp)
      exact absurd (Decimal.isDigit_of_mem first) (by decide)

/-! ## Hosts -/

/-- A host that is read back. Nothing in it ends an authority, the credentials, or the host. -/
structure HostText (toAscii : DomainToAscii) (host : List Char) : Prop where
  again : readHost? toAscii true host = some host
  ne_nil : host ≠ []
  visible : ∀ c ∈ host, 0x20 < c.toNat
  inner : ∀ c ∈ host, c ≠ '/' ∧ c ≠ '\\' ∧ c ≠ '@'
  closed : ':' ∉ host ∨ host.getLast? = some ']'

theorem hostText_of_allowed {name : List Char} (again : readDomain? toAscii name = some name)
    (some_char : name ≠ []) (allowed : ∀ c ∈ name, isForbiddenInDomain c = false) :
    HostText toAscii name := by
  have apart (c : Char) (hc : c ∈ name) : 0x20 < c.toNat ∧ c ∉ ['/', '\\', '@', ':', '['] := by
    have plain := allowed c hc
    simp only [isForbiddenInDomain, Bool.or_eq_false_iff, decide_eq_false_iff_not,
      Nat.not_lt] at plain
    have no_blank : c.toNat ≠ 0x20 := fun blank => by
      obtain rfl : c = ' ' := Char.toNat_inj.1 blank
      exact absurd plain.1.1.1 (by decide)
    refine ⟨by omega, fun mark => ?_⟩
    have := plain.1.1.1
    simp only [List.mem_cons, List.not_mem_nil, or_false] at mark
    rcases mark with rfl | rfl | rfl | rfl | rfl <;> exact absurd this (by decide)
  refine ⟨?_, some_char, fun c hc => (apart c hc).1, fun c hc => ?_, .inl fun hc => ?_⟩
  · unfold readHost?
    split
    · exact absurd (apart _ List.mem_cons_self).2 (by decide)
    · rwa [if_pos rfl]
  · have := (apart c hc).2
    simp only [List.mem_cons, List.not_mem_nil, or_false, not_or] at this
    exact ⟨this.1, this.2.1, this.2.2.1⟩
  · exact absurd (apart _ hc).2 (by decide)

theorem hostText_of_readDomain? (lawful : toAscii.Lawful) {cs host : List Char}
    (h : readDomain? toAscii cs = some host) : HostText toAscii host := by
  obtain ⟨name, mapped, h⟩ := Option.bind_eq_some_iff.1 h
  split at h
  · simp at h
  · next allowed =>
    split at h
    · obtain ⟨parts, -, address⟩ := Option.bind_eq_some_iff.1 h
      obtain ⟨a, b, c, d, ha, hb, hc, hd, rfl⟩ := exists_octets address
      exact hostText_of_allowed (readDomain?_v4Chars lawful ha hb hc hd) (v4Chars_ne_nil a b c d)
        fun _ => allowed_of_mem_v4Chars
    · next no_number =>
      obtain rfl := Option.some.inj h
      have plain : name ≠ [] ∧ ∀ c ∈ name, isForbiddenInDomain c = false := by
        simpa [not_or] using allowed
      have again : readDomain? toAscii name = some name := by
        rw [readDomain?_of_kept (lawful.again mapped) fun hc => absurd (plain.2 _ hc) (by decide),
          if_neg allowed, if_neg no_number]
      exact hostText_of_allowed again plain.1 plain.2

theorem hostText_v6Chars {groups : List Nat} (eight : groups.length = 8)
    (small : ∀ g ∈ groups, g < 65536) :
    HostText toAscii ('[' :: IpAddress.v6Chars groups ++ [']']) := by
  have digits : ∀ n < 16, 0x20 < (Hex.digit n).toNat ∧ Hex.digit n ≠ '/' ∧ Hex.digit n ≠ '\\'
      ∧ Hex.digit n ≠ '@' := by decide
  have chars (c : Char) (hc : c ∈ '[' :: IpAddress.v6Chars groups ++ [']']) :
      0x20 < c.toNat ∧ c ≠ '/' ∧ c ≠ '\\' ∧ c ≠ '@' := by
    simp only [List.mem_append, List.mem_cons, List.not_mem_nil, or_false] at hc
    rcases hc with (rfl | written) | rfl
    · decide
    · rcases IpAddress.mem_v6Chars written with rfl | ⟨n, small, rfl⟩
      · decide
      · exact digits n small
    · decide
  exact {
    again := by simp [readHost?, IpAddress.readV6_v6Chars eight small]
    ne_nil := by simp
    visible := fun c hc => (chars c hc).1
    inner := fun c hc => (chars c hc).2
    closed := .inr List.getLast?_concat }

/-- What was read as a host of a web-like URL is read back. -/
theorem hostText_of_readHost? (lawful : toAscii.Lawful) {cs host : List Char}
    (h : readHost? toAscii true cs = some host) : HostText toAscii host := by
  unfold readHost? at h
  split at h
  · split at h
    · split at h
      · next groups read =>
        obtain ⟨_, same, eight, small⟩ := IpAddress.readV6_eq_some read
        obtain rfl := IpAddress.v6.inj same
        exact Option.some.inj h ▸ hostText_v6Chars eight small
      · simp at h
    · simp at h
  · exact hostText_of_readDomain? lawful (by simpa using h)

end Url

end TorznabGateway
