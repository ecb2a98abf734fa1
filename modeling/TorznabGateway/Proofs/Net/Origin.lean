import TorznabGateway.Proofs.Net.Reader
import TorznabGateway.Proofs.Net.RoundTrip

/-!
# A lawful reader

URLs are read lawfully if domain names are brought into ASCII lawfully. And the origin of a `blob`
URL is found at any depth: the path of such a URL is shorter than its text.

## Main statements

* `Url.lawful_parse?`: what is relied on of a reader holds.
* `Url.originWithin?_congr`: the depth does not matter.
-/
namespace TorznabGateway.Url

open Text

variable {toAscii : DomainToAscii}

/-! ## Paths that are URLs -/

/-- No path of segments is read as a URL. -/
theorem parse?_chars_segments (segments : List (List Char)) :
    parse? toAscii (.ofList (UrlPath.chars (.segments segments))) = none := by
  cases parsed : parse? toAscii (.ofList (UrlPath.chars (.segments segments))) with
  | none => rfl
  | some u =>
    obtain ⟨scheme, rest, w, front, -, -⟩ := parse?_eq_some_iff.1 parsed
    obtain ⟨written, allowed, -, text⟩ := readScheme?_eq_some front
    rw [String.toList_ofList] at text
    cases segments with
    | nil => simp [UrlPath.chars, clean, dropEndWhile, splitAtMark] at text
    | cons s segments =>
      obtain ⟨ds, cleaned⟩ := exists_clean_cons (c := '/') (by decide)
        (s ++ UrlPath.chars (.segments segments))
      have slash : UrlPath.chars (.segments (s :: segments))
          = '/' :: (s ++ UrlPath.chars (.segments segments)) := by simp [UrlPath.chars]
      rw [slash, cleaned, ← List.singleton_append, splitAtMark_append (by decide)] at text
      cases written with
      | nil => simp at text
      | cons c cs =>
        obtain ⟨rfl, -⟩ := List.cons.inj text
        exact absurd (allowed '/' List.mem_cons_self) (by unfold InScheme; decide)

/-- A path that is one text is longer than what it is read from by two characters at most. -/
theorem length_escapeOpaque_le {cs : List Char}
    (kept : ∀ c ∈ cs, 0x20 ≤ c.toNat ∧ c.toNat ≤ 0x7E) :
    (escapeOpaque cs).length ≤ cs.length + 2 := by
  have same (ds : List Char) (inside : ds ⊆ cs) : escapeSet [] ds = ds :=
    escapeSet_of_kept fun c hc => ⟨(kept c (inside hc)).1, (kept c (inside hc)).2, by simp⟩
  unfold escapeOpaque
  split
  · next blank =>
    have some_char : 0 < cs.length := List.length_pos_of_mem (List.mem_of_getLast? blank)
    rw [same _ (List.dropLast_subset cs), List.length_append, List.length_dropLast,
      show "%20".toList.length = 3 from rfl]
    omega
  · rw [same cs (List.Subset.refl cs)]
    omega

/-- The path of a `blob` URL is shorter than its text, if no character of it has to be escaped: its
scheme and the colon are longer than what the escape of a blank adds. -/
theorem length_lt_of_parse? {cs p : List Char} {u : Url}
    (kept : ∀ c ∈ cs, 0x20 ≤ c.toNat ∧ c.toNat ≤ 0x7E)
    (parsed : parse? toAscii (.ofList cs) = some u) (blob : u.Blob p) : p.length < cs.length := by
  obtain ⟨read, rest, w, front, hierarchy, rfl⟩ := parse?_eq_some_iff.1 parsed
  obtain ⟨written, -, lower, text⟩ := readScheme?_eq_some front
  obtain rfl := scheme_of_readHierarchy? hierarchy
  rw [String.toList_ofList] at text
  have whole : (written ++ ':' :: rest).Sublist cs :=
    text ▸ (splitAtMark_sublist '#' _).trans (clean_sublist cs)
  have inside : (written ++ ':' :: (splitAtMark '?' rest).1).Sublist cs :=
    (((splitAtMark_sublist '?' rest).cons_cons ':').append_left written).trans whole
  have scheme : w.scheme = "blob".toList := blob.scheme
  have path : w.path = .opaqueText p := congrArg Url.path blob.parts
  have four : written.length = 4 := by
    have := congrArg List.length (lower.symm.trans scheme)
    simpa using this
  rw [scheme] at hierarchy
  rcases opaqueText_of_readHierarchy? hierarchy with ⟨segments, other⟩ | ⟨-, same⟩
  · simp [path] at other
  · have text_path : p = escapeOpaque (splitAtMark '?' rest).1 := by
      rw [same] at path
      exact (UrlPath.opaqueText.inj path).symm
    have longer := length_escapeOpaque_le fun c hc =>
      kept c (inside.mem (List.mem_append_right _ (List.mem_cons_of_mem ':' hc)))
    have fits := inside.length_le
    rw [List.length_append, List.length_cons, four] at fits
    rw [text_path]
    omega

/-- The depth up to which `blob` URLs may be nested does not matter, if it is greater than the
length of the path. -/
theorem originWithin?_congr (lawful : toAscii.Lawful) {p : List Char}
    (kept : ∀ c ∈ p, 0x20 ≤ c.toNat ∧ c.toNat ≤ 0x7E) {m n : Nat} (hm : p.length < m)
    (hn : p.length < n) :
    (parse? toAscii (.ofList p)).bind (originWithin? (parse? toAscii) m)
      = (parse? toAscii (.ofList p)).bind (originWithin? (parse? toAscii) n) := by
  -- Each path is shorter than the one it was read from, so the induction is on the length.
  induction size : p.length using Nat.strongRecOn generalizing p m n with
  | ind size ih =>
    cases parsed : parse? toAscii (.ofList p) with
    | none => rfl
    | some u =>
      obtain ⟨m, rfl⟩ := Nat.exists_eq_succ_of_ne_zero (Nat.ne_zero_of_lt hm)
      obtain ⟨n, rfl⟩ := Nat.exists_eq_succ_of_ne_zero (Nat.ne_zero_of_lt hn)
      rw [Option.bind_some, Option.bind_some, originWithin?, originWithin?]
      by_cases scheme : u.scheme = "blob".toList
      · rw [if_pos scheme, if_pos scheme]
        rcases web_or_blob_of_parse? lawful parsed (by simp [scheme])
          with web | ⟨q, blob⟩ | ⟨-, segments⟩
        · have other := web.scheme
          rw [scheme] at other
          exact absurd other (by decide)
        · have shorter := length_lt_of_parse? kept parsed blob
          have path : u.path = .opaqueText q := congrArg Url.path blob.parts
          rw [path]
          exact ih q.length (by omega) blob.text.kept (by omega) (by omega) rfl
        · obtain ⟨xs, path⟩ := segments
          rw [path, parse?_chars_segments]
          rfl
      · rw [if_neg scheme, if_neg scheme]

/-! ## What is relied on -/

/-- What is read of a web server is a URL of the web, or a `blob` URL with a URL as its path. -/
theorem web_or_blob_of_ofWeb (lawful : toAscii.Lawful) {s : String} {u : Url}
    (parsed : parse? toAscii s = some u) (web : u.OfWeb (parse? toAscii)) :
    u.Web toAscii ∨ ∃ p, u.Blob p := by
  obtain ⟨o, own, web⟩ := web
  have known : u.scheme ∈ ["http".toList, "https".toList, "blob".toList] := by
    by_cases blob : u.scheme = "blob".toList
    · simp [blob]
    · rw [← scheme_of_origin? blob own]
      rcases web with web | web <;> simp [web]
  rcases web_or_blob_of_parse? lawful parsed known with web | blob | ⟨scheme, segments, path⟩
  · exact .inl web
  · exact .inr blob
  · rw [Option.mem_def, origin?, originWithin?, if_pos scheme, path, parse?_chars_segments] at own
    contradiction

/-- What is relied on of a reader holds, whatever lawful way domain names are brought into ASCII. -/
theorem lawful_parse? (lawful : toAscii.Lawful) : Reader.Lawful (parse? toAscii) where
  query := queryEscaped_of_parse?
  again parsed web _ fixed :=
    parse?_render_withQuery parsed (web_or_blob_of_ofWeb lawful parsed web) fixed

end TorznabGateway.Url
