import Mathlib.Data.Set.Function
import TorznabGateway.Token

/-!
# Which wire forms are accepted

A wire form is accepted exactly if it is the signed form of a payload that reads as a token. All
else falls into two parts: two spellings with a dot between them whose second is not the code of the
first have a wrong signature, and any other text is malformed.

## Main definitions

* `Base64Url.IsUrlSafe`: the characters of the alphabet.
* `WrittenAs`: a text made of two spellings with a dot between them.
* `rejections`: how far the counters of rejected tokens move.

## Main statements

* `verify_of_writtenAs`, `verify_of_not_writtenAs`: all that verification does.
* `decode_outcomes`: the three outcomes of reading a wire form.
-/
namespace TorznabGateway

open Text Encoding

/-! ## The alphabet -/

namespace Encoding.Base64Url

/-- ASCII letters and digits, the hyphen and the underscore. -/
def IsUrlSafe (c : Char) : Prop :=
  c.isAlphanum ∨ c = '-' ∨ c = '_'

instance (c : Char) : Decidable (IsUrlSafe c) :=
  inferInstanceAs (Decidable (_ ∨ _))

theorem isUrlSafe_symbol {n : Nat} (h : n < 64) : IsUrlSafe (symbol n) := by
  revert n
  decide

theorem isUrlSafe_of_mem_encode {bs : List UInt8} {c : Char} (h : c ∈ encode bs) :
    IsUrlSafe c := by
  obtain ⟨n, hn, rfl⟩ := List.mem_map.1 h
  exact isUrlSafe_symbol (lt_of_mem_sextets hn)

theorem dot_not_mem_encode (bs : List UInt8) : '.' ∉ encode bs := by
  intro h
  exact absurd (isUrlSafe_of_mem_encode h) (by decide)

theorem encode_injective : Function.Injective encode := by
  intro bs cs h
  have hb := decode?_eq_some_iff.2 (rfl : encode bs = encode bs)
  rw [h, decode?_eq_some_iff.2 rfl] at hb
  exact (Option.some.inj hb).symm

theorem encode_ne_nil {bs : List UInt8} (h : bs ≠ []) : encode bs ≠ [] := by
  intro e
  exact h (encode_injective (e : encode bs = encode []))

/-- The first dot ends a spelling, so what stands before and after it can be told apart. -/
theorem append_dot_inj {p q : List UInt8} {rest rest' : List Char}
    (h : encode p ++ '.' :: rest = encode q ++ '.' :: rest') : p = q ∧ rest = rest' := by
  have parts := congrArg (splitFirst '.') h
  rw [splitFirst_append_cons rest (dot_not_mem_encode p),
    splitFirst_append_cons rest' (dot_not_mem_encode q), Prod.mk.injEq] at parts
  exact ⟨encode_injective parts.1, parts.2⟩

end Encoding.Base64Url

namespace DownloadToken

variable {secret : SharedSecret} {wire : String}

/-! ## The two parts -/

theorem splitParts?_eq_some_iff {cs first second : List Char} :
    splitParts? cs = some (first, second) ↔
      cs = first ++ '.' :: second ∧ first ≠ [] ∧ second ≠ [] ∧ '.' ∉ first ∧ '.' ∉ second := by
  constructor
  · intro h
    have dotted : '.' ∈ cs := by
      by_contra hd
      rw [splitParts?, if_neg (by simpa using hd)] at h
      cases h
    obtain ⟨before, after, rfl, nb⟩ := List.eq_append_cons_of_mem dotted
    rw [splitParts?, if_pos (by simp), splitFirst_append_cons after nb] at h
    simp only [Option.ite_none_left_eq_some, Option.some.injEq, Prod.mk.injEq] at h
    obtain ⟨parts, rfl, rfl⟩ := h
    simp only [Bool.or_eq_true, List.isEmpty_iff, List.contains_iff_mem, not_or] at parts
    obtain ⟨⟨hf, hs⟩, ns⟩ := parts
    exact ⟨rfl, hf, hs, nb, ns⟩
  · rintro ⟨rfl, hf, hs, nf, ns⟩
    rw [splitParts?, if_pos (by simp), splitFirst_append_cons second nf]
    simp [hf, hs, ns]

/-- A text of two spellings that are not empty, with a dot between them. -/
structure WrittenAs (wire : String) (payload tag : List UInt8) : Prop where
  text : wire.toList = Base64Url.encode payload ++ '.' :: Base64Url.encode tag
  payload_ne : Base64Url.encode payload ≠ []
  tag_ne : Base64Url.encode tag ≠ []

theorem WrittenAs.splitParts? {payload tag : List UInt8} (h : WrittenAs wire payload tag) :
    splitParts? wire.toList = some (Base64Url.encode payload, Base64Url.encode tag) :=
  splitParts?_eq_some_iff.2 ⟨h.text, h.payload_ne, h.tag_ne,
    Base64Url.dot_not_mem_encode payload, Base64Url.dot_not_mem_encode tag⟩

theorem writtenAs_of_splitParts? {first second : List Char} {payload tag : List UInt8}
    (h : splitParts? wire.toList = some (first, second))
    (hp : Base64Url.decode? first = some payload) (ht : Base64Url.decode? second = some tag) :
    WrittenAs wire payload tag := by
  obtain ⟨text, hf, hs, -, -⟩ := splitParts?_eq_some_iff.1 h
  rw [Base64Url.decode?_eq_some_iff] at hp ht
  subst hp ht
  exact ⟨text, hf, hs⟩

/-! ## Verification -/

/-- Two spellings are judged by the code, and only then by the payload. -/
theorem verify_of_writtenAs {payload tag : List UInt8} (h : WrittenAs wire payload tag) :
    verify secret wire =
      if tag = Digest.Hmac.tag secret.bytes payload then
        match ofPayload? payload with
        | some t => .ok t
        | none => .error .malformed
      else .error .invalidSignature := by
  have read (bs : List UInt8) : Base64Url.decode? (Base64Url.encode bs) = some bs :=
    Base64Url.decode?_eq_some_iff.2 rfl
  cases hp : ofPayload? payload <;> simp only [verify, h.splitParts?, read, hp]

/-- Any other text is malformed. -/
theorem verify_of_not_writtenAs (h : ¬∃ payload tag, WrittenAs wire payload tag) :
    verify secret wire = .error .malformed := by
  rw [verify]
  split
  · rfl
  next first second parts =>
  split
  next payload tag hp ht => exact absurd ⟨payload, tag, writtenAs_of_splitParts? parts hp ht⟩ h
  · rfl

theorem encode_tag_ne_nil (key message : List UInt8) :
    Base64Url.encode (Digest.Hmac.tag key message) ≠ [] := by
  apply Base64Url.encode_ne_nil
  intro e
  have := Digest.Hmac.length_tag key message
  rw [e] at this
  cases this

theorem ofPayload?_nil : ofPayload? [] = none := rfl

/-- The signed form of a payload that reads as a token. -/
theorem writtenAs_of_wireForm {payload : List UInt8} {t : DownloadToken}
    (h : wire.toList = wireForm secret payload) (ht : ofPayload? payload = some t) :
    WrittenAs wire payload (Digest.Hmac.tag secret.bytes payload) := by
  refine ⟨h, Base64Url.encode_ne_nil ?_, encode_tag_ne_nil _ _⟩
  rintro rfl
  rw [ofPayload?_nil] at ht
  cases ht

theorem verify_eq_ok_iff {t : DownloadToken} :
    verify secret wire = .ok t ↔
      ∃ p, wire.toList = wireForm secret p ∧ ofPayload? p = some t := by
  constructor
  · intro h
    by_cases hw : ∃ payload tag, WrittenAs wire payload tag
    · obtain ⟨payload, tag, hw⟩ := hw
      rw [verify_of_writtenAs hw] at h
      split at h
      next signed =>
        subst signed
        refine ⟨payload, hw.text, ?_⟩
        cases hp : ofPayload? payload with
        | none =>
          rw [hp] at h
          cases h
        | some s =>
          rw [hp] at h
          exact congrArg some (Except.ok.inj h)
      · cases h
    · rw [verify_of_not_writtenAs hw] at h
      cases h
  · rintro ⟨p, hw, hp⟩
    rw [verify_of_writtenAs (writtenAs_of_wireForm hw hp), if_pos rfl, hp]

theorem verify_eq_invalidSignature_iff :
    verify secret wire = .error .invalidSignature ↔
      ∃ p tag, WrittenAs wire p tag ∧ tag ≠ Digest.Hmac.tag secret.bytes p := by
  constructor
  · intro h
    by_cases hw : ∃ payload tag, WrittenAs wire payload tag
    · obtain ⟨payload, tag, hw⟩ := hw
      rw [verify_of_writtenAs hw] at h
      split at h
      · split at h <;> cases h
      next forged => exact ⟨payload, tag, hw, forged⟩
    · rw [verify_of_not_writtenAs hw] at h
      cases h
  · rintro ⟨p, tag, hw, forged⟩
    rw [verify_of_writtenAs hw, if_neg forged]

theorem verify_eq_malformed_iff :
    verify secret wire = .error .malformed ↔
      (¬∃ p t, wire.toList = wireForm secret p ∧ ofPayload? p = some t) ∧
        ¬∃ p tag, WrittenAs wire p tag ∧ tag ≠ Digest.Hmac.tag secret.bytes p := by
  have accepted : (∃ p t, wire.toList = wireForm secret p ∧ ofPayload? p = some t) ↔
      ∃ t, verify secret wire = .ok t := by
    rw [exists_comm]
    exact exists_congr fun t => verify_eq_ok_iff.symm
  rw [accepted, ← verify_eq_invalidSignature_iff]
  cases verify secret wire with
  | ok t => simp
  | error e => cases e <;> simp

/-! ## One wire form for each payload -/

theorem wireForm_injective (secret : SharedSecret) :
    Function.Injective fun p => String.ofList (wireForm secret p) := by
  intro p q h
  have forms : wireForm secret p = wireForm secret q := by
    simpa using congrArg String.toList h
  exact (Base64Url.append_dot_inj forms).1

/-- After a payload and a dot, only the code of the payload is accepted. -/
theorem verify_ofList_eq_ok_iff {p : List UInt8} {rest : List Char} {t : DownloadToken} :
    verify secret (.ofList (Base64Url.encode p ++ '.' :: rest)) = .ok t ↔
      rest = Base64Url.encode (Digest.Hmac.tag secret.bytes p) ∧ ofPayload? p = some t := by
  rw [verify_eq_ok_iff, String.toList_ofList]
  constructor
  · rintro ⟨q, hw, hq⟩
    obtain ⟨rfl, code⟩ := Base64Url.append_dot_inj hw
    exact ⟨code, hq⟩
  · rintro ⟨rfl, hp⟩
    exact ⟨p, rfl, hp⟩

/-! ## Reading a wire form -/

theorem decode_fst (wire : String) (secret : SharedSecret) :
    (decode wire secret).1 = verify secret wire := by
  rw [decode]
  split
  next t h => exact h.symm
  next e h => exact h.symm

/-- How far the counters of malformed tokens and of invalid signatures move. -/
def rejections (observed : List Observation) : Nat × Nat :=
  (observed.count (.tokenRejected .malformed), observed.count (.tokenRejected .invalidSignature))

theorem rejections_decode (wire : String) (secret : SharedSecret) :
    rejections (decode wire secret).2 =
      match (decode wire secret).1 with
      | .ok _ => (0, 0)
      | .error .malformed => (1, 0)
      | .error .invalidSignature => (0, 1) := by
  rw [decode]
  split
  · rfl
  next e _ => cases e <;> rfl

/-- A wire form is accepted if it is the signed form of a payload that reads as a token. It has an
invalid signature if it is written from a payload and a code that is not the payload's, and it is
malformed otherwise. So payloads and accepted wire forms correspond one to one, nothing but the code
may follow a payload, and each rejection moves one of the two counters by one. -/
theorem decode_outcomes (secret : SharedSecret) :
    (∀ wire t, (decode wire secret).1 = .ok t ↔
      ∃ p, wire.toList = wireForm secret p ∧ ofPayload? p = some t) ∧
    (∀ wire, (decode wire secret).1 = .error .invalidSignature ↔
      ∃ p tag, WrittenAs wire p tag ∧ tag ≠ Digest.Hmac.tag secret.bytes p) ∧
    (∀ wire, (decode wire secret).1 = .error .malformed ↔
      (¬∃ p t, wire.toList = wireForm secret p ∧ ofPayload? p = some t) ∧
        ¬∃ p tag, WrittenAs wire p tag ∧ tag ≠ Digest.Hmac.tag secret.bytes p) ∧
    Set.BijOn (fun p => String.ofList (wireForm secret p)) {p | ∃ t, ofPayload? p = some t}
      {wire | ∃ t, (decode wire secret).1 = .ok t} ∧
    (∀ p rest t, (decode (.ofList (Base64Url.encode p ++ '.' :: rest)) secret).1 = .ok t ↔
      rest = Base64Url.encode (Digest.Hmac.tag secret.bytes p) ∧ ofPayload? p = some t) ∧
    (∀ wire, rejections (decode wire secret).2 =
      match (decode wire secret).1 with
      | .ok _ => (0, 0)
      | .error .malformed => (1, 0)
      | .error .invalidSignature => (0, 1)) := by
  simp only [decode_fst]
  refine ⟨fun wire t => verify_eq_ok_iff, fun wire => verify_eq_invalidSignature_iff,
    fun wire => verify_eq_malformed_iff, ?_, fun p rest t => verify_ofList_eq_ok_iff, ?_⟩
  · refine ⟨?_, (wireForm_injective secret).injOn, ?_⟩
    · rintro p ⟨t, hp⟩
      exact ⟨t, verify_eq_ok_iff.2 ⟨p, String.toList_ofList, hp⟩⟩
    · rintro wire ⟨t, hw⟩
      obtain ⟨p, text, hp⟩ := verify_eq_ok_iff.1 hw
      refine ⟨p, ⟨t, hp⟩, ?_⟩
      simp only [← text, String.ofList_toList]
  · intro wire
    rw [rejections_decode, decode_fst]

end DownloadToken

end TorznabGateway
