import Mathlib.Algebra.Group.Nat.Defs
import TorznabGateway.Proofs.Search.Sightings
import TorznabGateway.Text.Utf8.RoundTrip

/-!
# What a fingerprint tells

The bytes under a fingerprint are the title, the size and the link with zero bytes between them. The
size has a fixed width, but neither text says where it ends, and both may hold a zero byte. So the
bytes tell two contents apart unless a title and a link of different items hold the character NUL;
then a NUL can be a part of the title in one reading and a separator in the other.

## Main definitions

* `Item.SameContent`: items with the same title, size and link.
* `Item.Blurred`: items whose texts hold NUL where it can be taken for a separator.

## Main statements

* `Item.fingerprintBytes_eq_iff`: the bytes under two fingerprints are the same for the same content
  only.
* `SeenStore.unchanged_only_if_same`: a changed item is not classified as unchanged.
* `SeenStore.unchanged_though_renamed`: an item that is, though its title and its link are others.
-/
namespace TorznabGateway

open Text

/-! ## Bytes with separators between them -/

/-- If a separator stands behind lists of different lengths in one list, the longer of them holds a
separator, and so does what stands behind the shorter. -/
theorem mem_of_append_separator_eq {α : Type} {z : α} {xs ys us vs : List α}
    (same : xs ++ z :: us = ys ++ z :: vs) (shorter : xs.length < ys.length) :
    z ∈ ys ∧ z ∈ us := by
  rcases List.append_eq_append_iff.1 same with ⟨c, rfl, rest⟩ | ⟨c, rfl, -⟩
  · cases c with
    | nil => simp at shorter
    | cons d c =>
      obtain ⟨rfl, rfl⟩ := List.cons.inj rest
      simp
  · rw [List.length_append] at shorter
    omega

/-- Two texts with a part of a fixed width between them are told apart, unless one front and the
other back hold the separator. -/
theorem append_separators_inj {α : Type} {z : α} {t₁ s₁ l₁ t₂ s₂ l₂ : List α}
    (width : s₁.length = s₂.length)
    (same : t₁ ++ z :: s₁ ++ z :: l₁ = t₂ ++ z :: s₂ ++ z :: l₂) :
    (t₁ = t₂ ∧ s₁ = s₂ ∧ l₁ = l₂) ∨ (z ∈ t₁ ∧ z ∈ l₂) ∨ (z ∈ t₂ ∧ z ∈ l₁) := by
  have nested : t₁ ++ z :: (s₁ ++ z :: l₁) = t₂ ++ z :: (s₂ ++ z :: l₂) := by simpa using same
  rcases Nat.lt_trichotomy t₁.length t₂.length with shorter | equal | longer
  · have back : (t₁ ++ z :: s₁).length < (t₂ ++ z :: s₂).length := by simp [shorter, width]
    exact .inr (.inr ⟨(mem_of_append_separator_eq nested shorter).1,
      (mem_of_append_separator_eq same back).2⟩)
  · obtain ⟨front, rest⟩ := List.append_inj nested equal
    obtain ⟨middle, back⟩ := List.append_inj (List.cons.inj rest).2 width
    exact .inl ⟨front, middle, (List.cons.inj back).2⟩
  · have back : (t₂ ++ z :: s₂).length < (t₁ ++ z :: s₁).length := by simp [longer, width]
    exact .inr (.inl ⟨(mem_of_append_separator_eq nested.symm longer).1,
      (mem_of_append_separator_eq same.symm back).2⟩)

theorem Digest.natBytes_injective {width m n : Nat} (hm : m < 256 ^ width) (hn : n < 256 ^ width)
    (same : natBytes width m = natBytes width n) : m = n := by
  induction width generalizing m n with
  | zero =>
    rw [Nat.pow_zero] at hm hn
    omega
  | succ width ih =>
    rw [Nat.pow_succ] at hm hn
    obtain ⟨high, low⟩ := List.append_inj' same rfl
    have quotients : m / 256 = n / 256 := ih (by omega) (by omega) high
    have bytes := congrArg UInt8.toNat (List.cons.inj low).1
    have remainders : m % 256 = n % 256 := by simpa using bytes
    omega

theorem Text.Utf8.encode_injective : Function.Injective Utf8.encode := by
  intro s t same
  simpa [Utf8.decode?_encode] using congrArg Utf8.decode? same

theorem Text.Utf8.nul_mem_of_zero_mem_encode {s : String} (h : 0 ∈ Utf8.encode s) :
    '\x00' ∈ s.toList :=
  Utf8.ofNat_mem_of_mem_encodeChars h (by decide)

theorem Text.Hex.encode_injective : Function.Injective Hex.encode := by
  intro as bs same
  simpa [Hex.decode?_encodeChars] using congrArg Hex.decode? (String.ofList_injective same)

/-! ## The bytes under a fingerprint -/

namespace Item

variable {i j : Item}

/-- Whether two items have the content that a fingerprint is of. -/
def SameContent (i j : Item) : Prop :=
  i.title = j.title ∧ i.size = j.size ∧ i.canonicalLink = j.canonicalLink

instance (i j : Item) : Decidable (i.SameContent j) :=
  inferInstanceAs (Decidable (_ ∧ _ ∧ _))

/-- Whether the title of one of two items and the link of the other hold NUL. -/
def Blurred (i j : Item) : Prop :=
  ('\x00' ∈ i.title.toList ∧ '\x00' ∈ j.canonicalLink.toList)
    ∨ ('\x00' ∈ j.title.toList ∧ '\x00' ∈ i.canonicalLink.toList)

instance (i j : Item) : Decidable (i.Blurred j) :=
  inferInstanceAs (Decidable (_ ∨ _))

theorem SameContent.fingerprintBytes_eq (h : i.SameContent j) :
    i.fingerprintBytes = j.fingerprintBytes := by
  obtain ⟨title, size, link⟩ := h
  rw [fingerprintBytes, fingerprintBytes, title, size, link]

/-- The bytes under two fingerprints are the same for the same content only, as long as sizes have
64 bits and no NUL blurs the texts. -/
theorem fingerprintBytes_eq_iff (hi : i.size ≤ Decimal.max64) (hj : j.size ≤ Decimal.max64)
    (clear : ¬i.Blurred j) : i.fingerprintBytes = j.fingerprintBytes ↔ i.SameContent j := by
  refine ⟨fun same => ?_, SameContent.fingerprintBytes_eq⟩
  have width : (Digest.natBytes 8 i.size).length = (Digest.natBytes 8 j.size).length := by
    rw [Digest.length_natBytes, Digest.length_natBytes]
  have framed : Utf8.encode i.title ++ 0 :: Digest.natBytes 8 i.size
        ++ 0 :: Utf8.encode i.canonicalLink
      = Utf8.encode j.title ++ 0 :: Digest.natBytes 8 j.size
        ++ 0 :: Utf8.encode j.canonicalLink := by
    simpa [fingerprintBytes] using same
  rcases append_separators_inj width framed with ⟨title, size, link⟩ | ⟨title, link⟩ | ⟨title, link⟩
  · have fits {n : Nat} (h : n ≤ Decimal.max64) : n < 256 ^ 8 := Nat.lt_of_le_of_lt h (by decide)
    exact ⟨Utf8.encode_injective title, Digest.natBytes_injective (fits hi) (fits hj) size,
      Utf8.encode_injective link⟩
  · exact absurd (.inl ⟨Utf8.nul_mem_of_zero_mem_encode title,
      Utf8.nul_mem_of_zero_mem_encode link⟩) clear
  · exact absurd (.inr ⟨Utf8.nul_mem_of_zero_mem_encode title,
      Utf8.nul_mem_of_zero_mem_encode link⟩) clear

end Item

/-! ## Items that changed -/

/-- Whether a digest tells two byte sequences apart, if they are two. -/
def Digest.Sha256.Separates (a b : List UInt8) : Prop :=
  digest a = digest b → a = b

namespace SeenStore

variable {ids : Nat → Uuid} {capacity ttl time now : Nat} {before since : List (Nat × Item)}
  {prior item : Item}

/-- An item is unchanged only if its last sighting had the same fingerprint, whether or not the
sighting is still remembered. -/
theorem fingerprint_eq_of_unchanged
    (sorted : (before ++ (time, prior) :: since ++ [(now, item)]).Pairwise (·.1 ≤ ·.1))
    (same : prior.key = item.key) (others : ∀ x ∈ since, x.2.key ≠ item.key)
    (unchanged : ((after ids (new capacity ttl) (before ++ (time, prior) :: since)).classify ids now
      item).2.1 = .unchanged) : prior.fingerprint = item.fingerprint := by
  have known := remembers_of_last_sighting ids capacity ttl sorted (same ▸ others)
  rw [same] at known
  cases found : ((after ids (new capacity ttl) (before ++ (time, prior) :: since)).sightings.get now
      item.key).1 with
  | none =>
    rw [classify_of_get_eq_none found] at unchanged
    cases unchanged
  | some seen =>
    obtain ⟨t, last, -⟩ := known.last_of_get found
    cases last
    rw [classify_of_get_eq_some found] at unchanged
    by_contra other
    simp [other] at unchanged

/-- What a fingerprint and a classification say of the content of two items. Items of one content
have one fingerprint. Where no NUL blurs the texts, items of different contents have different bytes
under their fingerprints, and an item whose content is not that of the last sighting under its key
is not unchanged, unless the two byte sequences have one digest. -/
theorem unchanged_only_if_same (prior item : Item) :
    (prior.SameContent item → prior.fingerprint = item.fingerprint)
    ∧ (prior.size ≤ Decimal.max64 → item.size ≤ Decimal.max64 → ¬prior.Blurred item →
      ¬prior.SameContent item →
        prior.fingerprintBytes ≠ item.fingerprintBytes
        ∧ ∀ ids capacity ttl before time since now,
          (before ++ (time, prior) :: since ++ [(now, item)]).Pairwise (·.1 ≤ ·.1) →
          prior.key = item.key → (∀ x ∈ since, x.2.key ≠ item.key) →
          Digest.Sha256.Separates prior.fingerprintBytes item.fingerprintBytes →
            ((after ids (new capacity ttl) (before ++ (time, prior) :: since)).classify ids now
              item).2.1 ≠ .unchanged) := by
  refine ⟨fun same => congrArg (Hex.encode ∘ Digest.Sha256.digest) same.fingerprintBytes_eq, ?_⟩
  intro prior_size item_size clear changed
  have bytes : prior.fingerprintBytes ≠ item.fingerprintBytes := fun same =>
    changed ((Item.fingerprintBytes_eq_iff prior_size item_size clear).1 same)
  refine ⟨bytes, ?_⟩
  intro ids capacity ttl before time since now sorted key others separates unchanged
  have fingerprints := fingerprint_eq_of_unchanged sorted key others unchanged
  exact bytes (separates (Hex.encode_injective fingerprints))

/-- An item that got a NUL into its title, seen again after another item. -/
theorem unchanged_only_if_same_nul :
    let prior : Item := { title := "a", link := "x", site := "s", localId := "1" }
    let item : Item := { prior with title := "a\x00" }
    let other : Item := { prior with localId := "2" }
    prior.fingerprint = { prior with seeders := 7 }.fingerprint
      ∧ ¬prior.Blurred item ∧ ¬prior.SameContent item
      ∧ prior.fingerprintBytes ≠ item.fingerprintBytes
      ∧ Digest.Sha256.Separates prior.fingerprintBytes item.fingerprintBytes
      ∧ ∀ ids, ((after ids (new 10 60) [(0, prior), (1, other)]).classify ids 2 item).2.1
        ≠ .unchanged := by
  intro prior item other
  have clear : ¬prior.Blurred item := by decide
  have changed : ¬prior.SameContent item := by decide
  have separates : Digest.Sha256.Separates prior.fingerprintBytes item.fingerprintBytes :=
    fun same => absurd same (by decide +kernel)
  obtain ⟨bytes, classified⟩ :=
    (unchanged_only_if_same prior item).2 (by decide) (by decide) clear changed
  exact ⟨(unchanged_only_if_same prior { prior with seeders := 7 }).1 (by decide), clear, changed,
    bytes, separates, fun ids => classified ids 10 60 [] 0 [(1, other)] 2 (by simp) (by decide)
      (by decide) separates⟩

/-- A NUL that moves from the front of the link to the end of the title changes no byte under the
fingerprint, so the item counts as unchanged. -/
theorem unchanged_though_renamed :
    let prior : Item := { title := "", link := "\x00x", site := "s", localId := "1" }
    let item : Item := { prior with title := "\x00", link := "x" }
    prior.title ≠ item.title ∧ prior.canonicalLink ≠ item.canonicalLink
      ∧ prior.fingerprintBytes = item.fingerprintBytes
      ∧ ∀ ids, ((after ids (new defaultCapacity defaultTtl) [(0, prior)]).classify ids 0 item).2.1
        = .unchanged := by
  intro prior item
  have bytes : prior.fingerprintBytes = item.fingerprintBytes := by decide
  refine ⟨by decide, by decide, bytes, fun ids => ?_⟩
  have fingerprints : prior.fingerprint = item.fingerprint :=
    congrArg (Hex.encode ∘ Digest.Sha256.digest) bytes
  have sorted : ([] ++ (0, prior) :: [] ++ [(0, item)]).Pairwise
      fun (a b : Nat × Item) => a.1 ≤ b.1 := by simp
  have few : (keys []).card < defaultCapacity := by decide
  have recent := classify_of_recent ids sorted rfl (List.forall_mem_nil _)
    (Nat.zero_le (0 + defaultTtl)) few
  exact recent.2.trans (if_pos fingerprints)

end SeenStore

end TorznabGateway
