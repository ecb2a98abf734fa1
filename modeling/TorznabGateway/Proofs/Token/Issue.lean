import TorznabGateway.Proofs.Json.RoundTrip
import TorznabGateway.Proofs.Token.Verification

/-!
# Issued tokens are read back

The payload of a token is read back, whatever its texts are. So an issued wire form is accepted
under the secret it was issued with and gives the token back. Its characters are safe in a path
segment of a URL.

## Main statements

* `ofPayload?_payload`: a token is read back from its payload.
* `decode_of_encode`: a token is read back from its wire form.
-/
namespace TorznabGateway.DownloadToken

open Text Encoding Json

/-- A token is read back from its payload. -/
theorem ofPayload?_payload (t : DownloadToken) : ofPayload? t.payload = some t := by
  have integral : Integral (.object [("site", .text t.indexer), ("link", .text t.sourceLink)]) :=
    ⟨trivial, trivial, trivial⟩
  have record := Record.ofSpelled?_spelled ["site", "link"]
    [("site", .text t.indexer), ("link", .text t.sourceLink)] (by simp) (by simp)
  rw [ofPayload?, payload, readSpelled?_chars integral]
  simp only [Option.bind_eq_bind, Option.bind_some, record]
  rfl

theorem count_dot_wireForm (secret : SharedSecret) (p : List UInt8) :
    (wireForm secret p).count '.' = 1 := by
  rw [wireForm, List.count_append, List.count_cons_self,
    List.count_eq_zero_of_not_mem (Base64Url.dot_not_mem_encode p),
    List.count_eq_zero_of_not_mem (Base64Url.dot_not_mem_encode _)]

/-- The two parts of a signed form are made of the alphabet. -/
theorem isUrlSafe_of_mem_wireForm {secret : SharedSecret} {p : List UInt8} {c : Char}
    (h : c ∈ wireForm secret p) : Base64Url.IsUrlSafe c ∨ c = '.' := by
  rw [wireForm, List.mem_append, List.mem_cons] at h
  rcases h with h | rfl | h
  · exact .inl (Base64Url.isUrlSafe_of_mem_encode h)
  · exact .inr rfl
  · exact .inl (Base64Url.isUrlSafe_of_mem_encode h)

theorem decode_wireForm (t : DownloadToken) (secret : SharedSecret) :
    decode (.ofList (wireForm secret t.payload)) secret = (.ok t, []) := by
  have accepted : verify secret (.ofList (wireForm secret t.payload)) = .ok t :=
    verify_eq_ok_iff.2 ⟨t.payload, String.toList_ofList, ofPayload?_payload t⟩
  rw [decode, accepted]

/-- An issued wire form is made of letters, digits, hyphens, underscores and one dot, and it is read
as the token it was issued for, with no rejection counted. -/
theorem decode_of_encode (t : DownloadToken) (secret : SharedSecret) :
    (∀ c ∈ (t.encode secret).1.toList, Base64Url.IsUrlSafe c ∨ c = '.') ∧
    (t.encode secret).1.toList.count '.' = 1 ∧
    decode (t.encode secret).1 secret = (.ok t, []) := by
  have text : (t.encode secret).1.toList = wireForm secret t.payload := String.toList_ofList
  have accepted : verify secret (t.encode secret).1 = .ok t :=
    verify_eq_ok_iff.2 ⟨t.payload, text, ofPayload?_payload t⟩
  rw [text, decode, accepted]
  exact ⟨fun c => isUrlSafe_of_mem_wireForm, count_dot_wireForm secret t.payload, rfl⟩

end TorznabGateway.DownloadToken
