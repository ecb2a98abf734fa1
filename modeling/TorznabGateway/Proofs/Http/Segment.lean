import TorznabGateway.Http.Route
import TorznabGateway.Proofs.Token.Verification
import TorznabGateway.Text.Utf8.RoundTrip

/-!
# Segments of a path

What is written percent-encoded, or in the alphabet of signed tokens, holds no character that ends a
segment or a path. So the segments of a path made of such pieces are these pieces, and they are read
back from it.

## Main definitions

* `Route.InSegment`: the characters that end neither a segment nor a path.
* `Route.text?`: the text that a segment stands for.
* `Route.downloadPath`: the path of a download.

## Main statements

* `Percent.inSegment_of_mem_encode`: percent-encoding writes such characters only.
* `Route.find?_downloadPath`: the path of a download is served as one, by its two segments.
* `Route.SpelledAs.text?`: a segment stands for the text that it was written for.
-/
namespace TorznabGateway

open Text Encoding

/-- Whether a character can stand in a segment of a path. -/
def Route.InSegment (c : Char) : Prop :=
  c ≠ '/' ∧ c ≠ '?' ∧ c ≠ '#'

instance (c : Char) : Decidable (Route.InSegment c) :=
  inferInstanceAs (Decidable (_ ∧ _))

/-! ## Spellings -/

namespace Encoding

open Route (InSegment)

theorem Base64Url.IsUrlSafe.inSegment {c : Char} (h : Base64Url.IsUrlSafe c) : InSegment c := by
  refine ⟨?_, ?_, ?_⟩ <;> rintro rfl <;> revert h <;> decide

theorem Base64Url.IsUrlSafe.toNat_lt {c : Char} (h : Base64Url.IsUrlSafe c) : c.toNat < 0x80 := by
  have bound {d : Char} (le : c.val ≤ d.val) (small : d.toNat < 0x80) : c.toNat < 0x80 :=
    Nat.lt_of_le_of_lt (UInt32.le_iff_toNat_le.1 le) small
  rcases h with h | rfl | rfl
  · rcases Bool.or_eq_true_iff.1 h with letter | digit
    · rcases Bool.or_eq_true_iff.1 letter with upper | lower
      · exact bound (d := 'Z') (of_decide_eq_true upper).2 (by decide)
      · exact bound (d := 'z') (of_decide_eq_true (Bool.and_eq_true_iff.1 lower).2) (by decide)
    · exact bound (d := '9') (of_decide_eq_true (Bool.and_eq_true_iff.1 digit).2) (by decide)
  all_goals decide

namespace Percent

theorem inSegment_upperDigit {n : Nat} (h : n < 16) : InSegment (Hex.upperDigit n) := by
  revert n
  decide

theorem inSegment_of_isUnreserved {b : UInt8} (h : isUnreserved b) :
    InSegment (.ofNat b.toNat) :=
  forall_byte (p := fun b => isUnreserved b → InSegment (.ofNat b.toNat)) (by decide +kernel) b h

theorem inSegment_of_mem_encode {s : String} {c : Char} (h : c ∈ (encode s).toList) :
    InSegment c := by
  rw [encode, String.toList_ofList, encodeBytes, List.mem_flatMap] at h
  obtain ⟨b, -, hc⟩ := h
  split at hc
  · next kept =>
    obtain rfl := List.mem_singleton.1 hc
    exact inSegment_of_isUnreserved kept
  · rcases mem_escape hc with rfl | ⟨n, digit, rfl⟩
    · decide
    · exact inSegment_upperDigit digit

/-- ASCII characters other than the percent sign stand for themselves. -/
theorem decodeBytes_encodeChars {cs : List Char} (h : ∀ c ∈ cs, c.toNat < 0x80 ∧ c ≠ '%') :
    decodeBytes (Utf8.encodeChars cs) = Utf8.encodeChars cs := by
  induction cs with
  | nil => rfl
  | cons c cs ih =>
    obtain ⟨small, plain⟩ := h c List.mem_cons_self
    have other : UInt8.ofNat c.toNat ≠ 0x25 := by
      intro e
      have value := congrArg UInt8.toNat e
      rw [UInt8.toNat_ofNat_of_lt' (Nat.lt_trans small (by decide))] at value
      exact plain (Char.toNat_inj.1 value)
    rw [Utf8.encodeChars_cons, Utf8.encodeChar_of_lt small, List.singleton_append,
      decodeBytes_of_ne _ other, ih fun d hd => h d (List.mem_cons_of_mem c hd)]

/-- What follows an encoded text is read on its own. -/
theorem decode_encode_append (s t : String) :
    decode (encode s ++ t) = Utf8.encode s ++ decode t := by
  simp only [decode, encode, Utf8.encode, String.toList_append, String.toList_ofList,
    Utf8.encodeChars_append]
  exact decodeBytes_encodeBytes_append (fun _ => toNat_lt_of_isUnreserved) _ _

end Percent

end Encoding

/-! ## Paths -/

namespace Route

/-- The text that a segment stands for. -/
def text? (segment : List Char) : Option String :=
  Utf8.decode? (Percent.decodeBytes (Utf8.encodeChars segment))

theorem decode_nil : decode [] = .ok [] := rfl

theorem decode_cons (name : String) (segment : List Char)
    (captured : List (String × List Char)) :
    decode ((name, segment) :: captured) =
      match text? segment with
      | some text => (decode captured).map (text :: ·)
      | none => .error ⟨name⟩ := by
  rw [decode, List.mapM_cons, ← decode, text?]
  dsimp only
  cases Utf8.decode? (Percent.decodeBytes (Utf8.encodeChars segment)) with
  | none => rfl
  | some text => cases decode captured <;> rfl

/-- Whether a segment is written so that it stands for a text. -/
def SpelledAs (segment : List Char) (text : String) : Prop :=
  Percent.decode (.ofList segment) = Utf8.encode text

theorem SpelledAs.text? {segment : List Char} {text : String} (h : SpelledAs segment text) :
    text? segment = some text := by
  rw [SpelledAs, Percent.decode, Utf8.encode, String.toList_ofList] at h
  rw [Route.text?, h, Utf8.decode?_encode]

/-- A path is cut into the segments that it was joined from. -/
theorem segments?_of_toList {path : String} {segments : List (List Char)}
    (h : path.toList = '/' :: joinWith ['/'] segments) (some_segment : segments ≠ [])
    (whole : ∀ s ∈ segments, '/' ∉ s) : segments? path = some segments := by
  rw [segments?, h]
  exact congrArg some (splitOn_joinWith some_segment whole)

/-- The path of a download. -/
def downloadPath (token filename : List Char) : String :=
  .ofList ('/' :: 'd' :: '/' :: token ++ '/' :: filename)

section

variable {token filename : List Char}

theorem segments?_downloadPath (ht : ∀ c ∈ token, InSegment c) (hf : ∀ c ∈ filename, InSegment c) :
    segments? (downloadPath token filename) = some [['d'], token, filename] := by
  have token_whole : '/' ∉ token := fun h => (ht _ h).1 rfl
  have filename_whole : '/' ∉ filename := fun h => (hf _ h).1 rfl
  have written : (downloadPath token filename).toList
      = '/' :: joinWith ['/'] [['d'], token, filename] := by
    simp [downloadPath, joinWith]
  refine segments?_of_toList written (List.cons_ne_nil _ _) ?_
  rw [List.forall_mem_cons, List.forall_mem_cons, List.forall_mem_singleton]
  exact ⟨by decide, token_whole, filename_whole⟩

/-- The path of a download is served as one. -/
theorem find?_downloadPath (ht : ∀ c ∈ token, InSegment c) (hf : ∀ c ∈ filename, InSegment c)
    (some_name : filename ≠ []) :
    find? (downloadPath token filename)
      = some (.shortDownload, [("token", token), ("filename", filename)]) := by
  rw [find?, segments?_downloadPath ht hf]
  simp [all, pattern, capture?, some_name]

end

end Route

end TorznabGateway
