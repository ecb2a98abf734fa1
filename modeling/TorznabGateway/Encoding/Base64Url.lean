/-!
# Base64 for URLs

The unpadded base64 of RFC 4648 with the alphabet that is safe in URLs. Three bytes are four
characters; one or two bytes left over are two or three. Reading is strict: no padding, no
character outside the alphabet, and the bits that a shorter last group does not use are zero, so
that every byte sequence has one spelling.
-/
namespace TorznabGateway.Encoding.Base64Url

/-- The character for the six bits `n < 64`. -/
def symbol (n : Nat) : Char :=
  if n < 26 then .ofNat ('A'.toNat + n)
  else if n < 52 then .ofNat ('a'.toNat + (n - 26))
  else if n < 62 then .ofNat ('0'.toNat + (n - 52))
  else if n = 62 then '-'
  else '_'

/-- The six bits a character stands for. -/
def value? (c : Char) : Option Nat :=
  if 'A' ≤ c ∧ c ≤ 'Z' then some (c.toNat - 'A'.toNat)
  else if 'a' ≤ c ∧ c ≤ 'z' then some (c.toNat - 'a'.toNat + 26)
  else if '0' ≤ c ∧ c ≤ '9' then some (c.toNat - '0'.toNat + 52)
  else if c = '-' then some 62
  else if c = '_' then some 63
  else none

/-- The six-bit values of a byte sequence, the last one filled up with zero bits. -/
def sextets : List UInt8 → List Nat
  | [] => []
  | [a] => [a.toNat / 4, a.toNat % 4 * 16]
  | [a, b] => [a.toNat / 4, a.toNat % 4 * 16 + b.toNat / 16, b.toNat % 16 * 4]
  | a :: b :: c :: rest =>
    a.toNat / 4 :: (a.toNat % 4 * 16 + b.toNat / 16) :: (b.toNat % 16 * 4 + c.toNat / 64)
      :: c.toNat % 64 :: sextets rest

/-- The characters of a byte sequence. -/
def encode (bs : List UInt8) : List Char :=
  (sextets bs).map symbol

/-- The bytes of six-bit values; a single value left over, or bits left over that are not zero,
are refused. -/
def join? : List Nat → Option (List UInt8)
  | [] => some []
  | [_] => none
  | [p, q] => if q % 16 = 0 then some [.ofNat (p * 4 + q / 16)] else none
  | [p, q, r] =>
    if r % 4 = 0 then some [.ofNat (p * 4 + q / 16), .ofNat (q % 16 * 16 + r / 4)] else none
  | p :: q :: r :: s :: rest =>
    (join? rest).map fun bs =>
      .ofNat (p * 4 + q / 16) :: .ofNat (q % 16 * 16 + r / 4) :: .ofNat (r % 4 * 64 + s) :: bs

/-- The byte sequence spelled by `cs`. -/
def decode? (cs : List Char) : Option (List UInt8) :=
  (cs.mapM value?).bind join?

/-! ## Reading and writing -/

theorem value?_symbol {n : Nat} (h : n < 64) : value? (symbol n) = some n := by
  revert n
  decide

private theorem ofNat_add_sub {c : Char} {low : Nat} (h : low ≤ c.toNat) :
    Char.ofNat (low + (c.toNat - low)) = c := by
  rw [Nat.add_sub_cancel' h, Char.ofNat_toNat]

theorem symbol_of_value? {c : Char} {n : Nat} (h : value? c = some n) :
    n < 64 ∧ symbol n = c := by
  unfold value? at h
  split at h
  · next hc =>
    have lo : 65 ≤ c.toNat := hc.1
    have hi : c.toNat ≤ 90 := hc.2
    obtain rfl := Option.some.inj h
    refine ⟨by simp; omega, ?_⟩
    rw [symbol, if_pos (by simp; omega)]
    exact ofNat_add_sub lo
  split at h
  · next hc =>
    have lo : 97 ≤ c.toNat := hc.1
    have hi : c.toNat ≤ 122 := hc.2
    obtain rfl := Option.some.inj h
    refine ⟨by simp; omega, ?_⟩
    rw [symbol, if_neg (by omega), if_pos (by simp; omega), Nat.add_sub_cancel]
    exact ofNat_add_sub lo
  split at h
  · next hc =>
    have lo : 48 ≤ c.toNat := hc.1
    have hi : c.toNat ≤ 57 := hc.2
    obtain rfl := Option.some.inj h
    refine ⟨by simp; omega, ?_⟩
    rw [symbol, if_neg (by omega), if_neg (by omega), if_pos (by simp; omega), Nat.add_sub_cancel]
    exact ofNat_add_sub lo
  split at h
  · next hc =>
    obtain rfl := Option.some.inj h
    exact ⟨by decide, hc ▸ rfl⟩
  split at h
  · next hc =>
    obtain rfl := Option.some.inj h
    exact ⟨by decide, hc ▸ rfl⟩
  · cases h

theorem lt_of_mem_sextets {bs : List UInt8} {n : Nat} (h : n ∈ sextets bs) : n < 64 := by
  fun_induction sextets bs with
  | case1 => cases h
  | case2 a =>
    have := a.toNat_lt
    simp only [List.mem_cons, List.not_mem_nil, or_false] at h
    omega
  | case3 a b =>
    have := a.toNat_lt
    have := b.toNat_lt
    simp only [List.mem_cons, List.not_mem_nil, or_false] at h
    omega
  | case4 a b c rest ih =>
    have := a.toNat_lt
    have := b.toNat_lt
    have := c.toNat_lt
    simp only [List.mem_cons] at h
    rcases h with rfl | rfl | rfl | rfl | h
    case inr.inr.inr.inr => exact ih h
    all_goals omega

private theorem ofNat_eq {b : UInt8} {n : Nat} (h : n = b.toNat) : UInt8.ofNat n = b := by
  rw [h, UInt8.ofNat_toNat]

theorem join?_sextets (bs : List UInt8) : join? (sextets bs) = some bs := by
  fun_induction sextets bs with
  | case1 => rfl
  | case2 a =>
    rw [join?, if_pos (by omega), ofNat_eq (b := a) (by omega)]
  | case3 a b =>
    have := b.toNat_lt
    rw [join?, if_pos (by omega), ofNat_eq (b := a) (by omega), ofNat_eq (b := b) (by omega)]
  | case4 a b c rest ih =>
    have := b.toNat_lt
    have := c.toNat_lt
    rw [join?, ih, Option.map_some, ofNat_eq (b := a) (by omega), ofNat_eq (b := b) (by omega),
      ofNat_eq (b := c) (by omega)]

theorem sextets_of_join? {ns : List Nat} {bs : List UInt8} (hn : ∀ n ∈ ns, n < 64)
    (h : join? ns = some bs) : sextets bs = ns := by
  have byte {n : Nat} (hn : n < 256) : (UInt8.ofNat n).toNat = n := UInt8.toNat_ofNat_of_lt' hn
  fun_induction join? ns generalizing bs with
  | case1 => cases h; rfl
  | case2 => cases h
  | case3 p q hq =>
    cases h
    have hp : p < 64 := hn p (by simp)
    have hq : q < 64 := hn q (by simp)
    rw [sextets, byte (by omega)]
    congr 1
    · omega
    · congr 1; omega
  | case4 => cases h
  | case5 p q r hr =>
    cases h
    have hp : p < 64 := hn p (by simp)
    have hq : q < 64 := hn q (by simp)
    have hr : r < 64 := hn r (by simp)
    rw [sextets, byte (by omega), byte (by omega)]
    refine List.cons_eq_cons.2 ⟨by omega, List.cons_eq_cons.2 ⟨by omega, ?_⟩⟩
    exact List.cons_eq_cons.2 ⟨by omega, rfl⟩
  | case6 => cases h
  | case7 p q r s rest ih =>
    obtain ⟨cs, hc, rfl⟩ := Option.map_eq_some_iff.1 h
    have hp : p < 64 := hn p (by simp)
    have hq : q < 64 := hn q (by simp)
    have hr : r < 64 := hn r (by simp)
    have hs : s < 64 := hn s (by simp)
    have hrest : sextets cs = rest := ih (fun n hm => hn n (by simp [hm])) hc
    rw [sextets, hrest, byte (by omega), byte (by omega), byte (by omega)]
    refine List.cons_eq_cons.2 ⟨by omega, List.cons_eq_cons.2 ⟨by omega, ?_⟩⟩
    exact List.cons_eq_cons.2 ⟨by omega, List.cons_eq_cons.2 ⟨by omega, rfl⟩⟩

theorem mapM_value?_map_symbol {ns : List Nat} (h : ∀ n ∈ ns, n < 64) :
    (ns.map symbol).mapM value? = some ns := by
  induction ns with
  | nil => rfl
  | cons n ns ih =>
    simp [value?_symbol (h n List.mem_cons_self), ih fun m hm => h m (List.mem_cons_of_mem n hm)]

theorem map_symbol_of_mapM {cs : List Char} {ns : List Nat} (h : cs.mapM value? = some ns) :
    ns.map symbol = cs ∧ ∀ n ∈ ns, n < 64 := by
  induction cs generalizing ns with
  | nil => cases h; simp
  | cons c cs ih =>
    simp only [List.mapM_cons, Option.bind_eq_bind, Option.bind_eq_some_iff] at h
    obtain ⟨n, hc, rest, hr, hn⟩ := h
    obtain rfl := Option.some.inj hn
    obtain ⟨lt, sym⟩ := symbol_of_value? hc
    obtain ⟨back, bound⟩ := ih hr
    simpa [back, sym, lt] using bound

/-- Reading accepts exactly what writing produces, so every byte sequence has one spelling. -/
theorem decode?_eq_some_iff {cs : List Char} {bs : List UInt8} :
    decode? cs = some bs ↔ cs = encode bs := by
  constructor
  · intro h
    obtain ⟨ns, hm, hj⟩ := Option.bind_eq_some_iff.1 h
    obtain ⟨back, bound⟩ := map_symbol_of_mapM hm
    rw [encode, sextets_of_join? bound hj, back]
  · rintro rfl
    rw [decode?, encode, mapM_value?_map_symbol fun n => lt_of_mem_sextets, Option.bind_some,
      join?_sextets]

end TorznabGateway.Encoding.Base64Url
