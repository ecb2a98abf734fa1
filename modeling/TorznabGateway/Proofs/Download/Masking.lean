import TorznabGateway.Proofs.Download.Link
import TorznabGateway.Proofs.Search.Unlinked

/-!
# Tokens masked in a text

Masking replaces every token that stands as a path segment behind a segment `d`. Texts that masking
makes equal whatever stands around them are alike. Issued links of items with one title are alike,
in any spelling that keeps the characters of tokens and the slash.

## Main definitions

* `DownloadToken.maskTokens`: a text with its tokens masked.
* `DownloadToken.Alike`: texts that are the same in every context once tokens are masked.

## Main statements

* `DownloadToken.maskTokens_of_unsigned`: a text without tokens stays as it is.
* `DownloadToken.maskTokens_token`: a token in a download path gives way to a star.
* `LinkIssuer.alike_issue`: the links of two items that differ in their links only are alike.
-/
namespace TorznabGateway

open Text Encoding

namespace DownloadToken

variable {secret : SharedSecret}

/-! ## Masking -/

/-- Whether a segment is a token under a secret. -/
def isSigned (secret : SharedSecret) (segment : List Char) : Bool :=
  (verify secret (.ofList segment)).isOk

/-- Put a star in place of each token that stands right behind a segment `d`. The flag says whether
such a segment stands in front. -/
def maskSegments (secret : SharedSecret) : Bool → List (List Char) → List (List Char)
  | _, [] => []
  | behind, s :: rest =>
    (if behind && isSigned secret s then ['*'] else s) :: maskSegments secret (s == ['d']) rest

/-- Put a star in place of each token of a download path. -/
def maskTokens (secret : SharedSecret) (cs : List Char) : List Char :=
  joinWith ['/'] (maskSegments secret false (splitOn '/' cs))

theorem maskSegments_of_unsigned {behind : Bool} {segments : List (List Char)}
    (h : ∀ s ∈ segments, isSigned secret s = false) :
    maskSegments secret behind segments = segments := by
  induction segments generalizing behind with
  | nil => rfl
  | cons s rest ih =>
    rw [List.forall_mem_cons] at h
    rw [maskSegments, h.1, Bool.and_false, if_neg Bool.false_ne_true, ih h.2]

/-- Masking changes tokens only. -/
theorem maskTokens_of_unsigned {cs : List Char}
    (h : ∀ s ∈ splitOn '/' cs, isSigned secret s = false) : maskTokens secret cs = cs := by
  rw [maskTokens, maskSegments_of_unsigned h, joinWith_splitOn]

theorem isSigned_iff {segment : List Char} :
    isSigned secret segment ↔
      ∃ p t, segment = wireForm secret p ∧ ofPayload? p = some t := by
  have accepted : isSigned secret segment ↔ ∃ t, verify secret (.ofList segment) = .ok t := by
    rw [isSigned]
    cases verify secret (.ofList segment) <;> simp [Except.isOk, Except.toBool]
  rw [accepted, exists_comm]
  simp only [verify_eq_ok_iff, String.toList_ofList]

theorem isSigned_wireForm (t : DownloadToken) : isSigned secret (wireForm secret t.payload) :=
  isSigned_iff.2 ⟨t.payload, t, rfl, ofPayload?_payload t⟩

theorem slash_not_mem {token : List Char} (signed : isSigned secret token) : '/' ∉ token := by
  obtain ⟨p, t, rfl, -⟩ := isSigned_iff.1 signed
  intro h
  rcases isUrlSafe_of_mem_wireForm h with safe | dot
  · exact safe.inSegment.1 rfl
  · cases dot

theorem isSigned_marker : isSigned secret ['d'] = false := rfl

theorem maskSegments_token {behind : Bool} {token : List Char} (signed : isSigned secret token)
    (before after : List (List Char)) :
    maskSegments secret behind (before ++ ['d'] :: token :: after)
      = maskSegments secret behind before ++ ['d'] :: ['*'] :: maskSegments secret false after := by
  induction before generalizing behind with
  | nil =>
    have other : (token == ['d']) = false := by
      rw [beq_eq_false_iff_ne]
      rintro rfl
      rw [isSigned_marker] at signed
      cases signed
    simp [maskSegments, isSigned_marker, signed, other]
  | cons s rest ih => rw [List.cons_append, maskSegments, ih, maskSegments, List.cons_append]

theorem maskSegments_ne_nil (secret : SharedSecret) (behind : Bool) {segments : List (List Char)}
    (h : segments ≠ []) : maskSegments secret behind segments ≠ [] := by
  cases segments with
  | nil => exact absurd rfl h
  | cons s rest => exact List.cons_ne_nil _ _

/-- A token in a download path gives way to a star, and what stands before and after is masked on
its own. -/
theorem maskTokens_token {token : List Char} (signed : isSigned secret token)
    (before after : List Char) :
    maskTokens secret (before ++ ('/' :: 'd' :: '/' :: token ++ ['/']) ++ after)
      = maskTokens secret before ++ ['/', 'd', '/', '*', '/'] ++ maskTokens secret after := by
  have pieces : before ++ ('/' :: 'd' :: '/' :: token ++ ['/']) ++ after
      = before ++ '/' :: (['d'] ++ '/' :: (token ++ '/' :: after)) := by simp
  have left := maskSegments_ne_nil secret false (splitOn_ne_nil '/' before)
  have right := maskSegments_ne_nil secret false (splitOn_ne_nil '/' after)
  have marked := joinWith_append ['/'] (List.cons_ne_nil ['d'] [['*']]) right
  rw [maskTokens, pieces, splitOn_append_separator, splitOn_append_cons _ (by decide),
    splitOn_append_cons _ (slash_not_mem signed), maskSegments_token signed,
    joinWith_append ['/'] left (List.cons_ne_nil _ _)]
  rw [List.cons_append, List.singleton_append] at marked
  rw [marked]
  simp [maskTokens, joinWith]

/-! ## Texts that are alike -/

/-- Whether two texts are the same in every context once tokens are masked. -/
def Alike (secret : SharedSecret) (cs ds : List Char) : Prop :=
  ∀ before after,
    maskTokens secret (before ++ cs ++ after) = maskTokens secret (before ++ ds ++ after)

namespace Alike

variable {cs ds cs' ds' : List Char}

@[refl] theorem refl (cs : List Char) : Alike secret cs cs :=
  fun _ _ => rfl

theorem maskTokens_eq (h : Alike secret cs ds) : maskTokens secret cs = maskTokens secret ds := by
  simpa using h [] []

theorem append (h : Alike secret cs ds) (h' : Alike secret cs' ds') :
    Alike secret (cs ++ cs') (ds ++ ds') := by
  intro before after
  calc maskTokens secret (before ++ (cs ++ cs') ++ after)
      = maskTokens secret (before ++ cs ++ (cs' ++ after)) := by simp
    _ = maskTokens secret (before ++ ds ++ (cs' ++ after)) := h _ _
    _ = maskTokens secret ((before ++ ds) ++ cs' ++ after) := by simp
    _ = maskTokens secret ((before ++ ds) ++ ds' ++ after) := h' _ _
    _ = maskTokens secret (before ++ (ds ++ ds') ++ after) := by simp

/-- What stands in front is the same. -/
theorem behind (cs : List Char) (h : Alike secret cs' ds') : Alike secret (cs ++ cs') (cs ++ ds') :=
  (refl cs).append h

end Alike

/-- A token as a segment of a download path is like any other. -/
theorem alike_token {token token' : List Char} (signed : isSigned secret token)
    (signed' : isSigned secret token') :
    Alike secret ('/' :: 'd' :: '/' :: token ++ ['/']) ('/' :: 'd' :: '/' :: token' ++ ['/']) := by
  intro before after
  rw [maskTokens_token signed, maskTokens_token signed']

end DownloadToken

/-! ## Issued links -/

/-- Whether a spelling keeps the characters of tokens and the slash. -/
def KeepsPaths (spell : Char → List Char) : Prop :=
  ∀ c, Base64Url.IsUrlSafe c ∨ c = '.' ∨ c = '/' → spell c = [c]

theorem KeepsPaths.flatMap {spell : Char → List Char} (h : KeepsPaths spell) {cs : List Char}
    (plain : ∀ c ∈ cs, Base64Url.IsUrlSafe c ∨ c = '.' ∨ c = '/') : cs.flatMap spell = cs := by
  rw [List.flatMap_congr fun c hc => h c (plain c hc)]
  exact List.flatMap_singleton' cs

namespace LinkIssuer

open DownloadToken

variable {publicUrl : String} {secret : SharedSecret} {i j : Item}

/-- The links issued for two items that differ in their links only are alike in every such
spelling. -/
theorem alike_issue (same : i.SameButLinks j) {spell : Char → List Char}
    (keeps : KeepsPaths spell) :
    Alike secret (((LinkIssuer.new publicUrl secret).issue i).1.link.toList.flatMap spell)
      (((LinkIssuer.new publicUrl secret).issue j).1.link.toList.flatMap spell) := by
  have title : i.title = j.title := (congrArg Item.title same.unlinked :)
  have filename : filenameSegment i = filenameSegment j := by
    rw [filenameSegment, filenameSegment, title]
  have path (k : Item) : ('/' :: 'd' :: '/' :: tokenOf secret k ++ ['/']).flatMap spell
      = '/' :: 'd' :: '/' :: tokenOf secret k ++ ['/'] := by
    refine keeps.flatMap fun c hc => ?_
    simp only [List.cons_append, List.mem_cons, List.mem_append, List.not_mem_nil, or_false] at hc
    rcases hc with rfl | rfl | rfl | hc | rfl
    · decide
    · decide
    · decide
    · exact (isUrlSafe_of_mem_wireForm hc).imp_right .inl
    · decide
  have spelled (k : Item) : (trimEndOf '/' publicUrl
        ++ Route.downloadPath (tokenOf secret k) (filenameSegment j).toList).toList.flatMap spell
      = (trimEndOf '/' publicUrl).toList.flatMap spell
        ++ ('/' :: 'd' :: '/' :: tokenOf secret k ++ ['/'])
        ++ (filenameSegment j).toList.flatMap spell := by
    rw [← path k]
    simp [Route.downloadPath]
  rw [issue_fst same.left.link same.left.web, issue_fst same.right.link same.right.web, filename,
    spelled i, spelled j]
  exact ((alike_token (isSigned_wireForm _) (isSigned_wireForm _)).behind _).append (.refl _)

end LinkIssuer

end TorznabGateway
