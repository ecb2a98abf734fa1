import TorznabGateway.Proofs.Net.Authority
import TorznabGateway.Proofs.Net.Query

/-!
# URLs are read back

A URL of the web that was read is got back from its text, and so it is with another query. A `blob`
URL has nothing but a text in front of its query; as this does not end in a blank, nothing of it is
lost where the query is left out.

## Main definitions

* `Url.Stable`: URLs all of whose parts are read back.
* `Url.Blob`: URLs with nothing but a text in front of the query.

## Main statements

* `Url.Stable.parse?_render`: a URL is read back from its text.
* `Url.parse?_render_withQuery`: a URL that was read is read back with any query.
-/
namespace TorznabGateway.Url

open Text Encoding

variable {toAscii : DomainToAscii}

/-! ## Opaque paths -/

/-- Whether a text is the path of a URL without a host, as it is read from a text that does not
start with a slash. -/
structure OpaqueText (cs : List Char) : Prop where
  kept : ∀ c ∈ cs, 0x20 ≤ c.toNat ∧ c.toNat ≤ 0x7E
  no_slash : cs.head? ≠ some '/'
  no_blank : cs.getLast? ≠ some ' '

theorem OpaqueText.readHierarchy? {cs : List Char} (h : OpaqueText cs) :
    readHierarchy? toAscii "blob".toList cs
      = some { scheme := "blob".toList, path := .opaqueText cs } := by
  have special : isSpecialScheme "blob".toList = false := by decide
  unfold Url.readHierarchy?
  rw [if_neg (by decide), special]
  split
  · contradiction
  split
  · exact absurd rfl h.no_slash
  · exact absurd rfl h.no_slash
  · have kept := h.kept
    rw [escapeOpaque, if_neg h.no_blank,
      escapeSet_of_kept fun c hc => ⟨(kept c hc).1, (kept c hc).2, by simp⟩]

theorem head?_escapeSet (special : List Char) (c : Char) (cs : List Char) :
    (escapeSet special (c :: cs)).head? = some c
      ∨ (escapeSet special (c :: cs)).head? = some '%' := by
  rw [escapeSet, Percent.encodeBytes, Utf8.encodeChars_cons]
  cases bytes : Utf8.encodeChar c with
  | nil => exact absurd bytes (encodeChar_ne_nil c)
  | cons b bs =>
    rw [List.cons_append, List.flatMap_cons]
    split
    · next kept =>
      simp only [Bool.and_eq_true, decide_eq_true_eq] at kept
      have inside : b ∈ Utf8.encodeChars [c] := by simp [bytes]
      have given := Utf8.ofNat_mem_of_mem_encodeChars inside (by omega)
      exact .inl (by rw [List.mem_singleton.1 given]; rfl)
    · exact .inr rfl

theorem head?_escapeSet_ne_slash {special cs : List Char} (no_slash : cs.head? ≠ some '/') :
    (escapeSet special cs).head? ≠ some '/' := by
  cases cs with
  | nil => exact Option.some_ne_none _ |>.symm
  | cons c cs =>
    rcases head?_escapeSet special c cs with first | first
    · rwa [first]
    · rw [first]
      decide

/-- No blank comes to stand at the end of a text with escapes. -/
theorem getLast?_escapeSet_ne_blank {special cs : List Char} (no_blank : cs.getLast? ≠ some ' ') :
    (escapeSet special cs).getLast? ≠ some ' ' := by
  rcases List.eq_nil_or_concat cs with rfl | ⟨front, c, rfl⟩
  · exact Option.some_ne_none _ |>.symm
  · rw [List.concat_eq_append] at no_blank ⊢
    rw [escapeSet_append, List.getLast?_append]
    cases ending : (escapeSet special [c]).getLast? with
    | none =>
      have nothing := List.getLast?_eq_none_iff.1 ending
      rcases head?_escapeSet special c [] with first | first <;> simp [nothing] at first
    | some d =>
      rintro ⟨⟩
      rcases mem_escapeSet (List.mem_of_getLast? ending) with ⟨given, -⟩ | mark | ⟨n, digit, mark⟩
      · exact no_blank (by simp [(List.mem_singleton.1 given).symm])
      · exact absurd mark (by decide)
      · have visible := (upperDigit_ne_mark digit).2.2
        rw [← mark] at visible
        exact absurd visible (by decide)

theorem opaqueText_escapeOpaque {cs : List Char} (no_slash : cs.head? ≠ some '/') :
    OpaqueText (escapeOpaque cs) := by
  unfold escapeOpaque
  split
  · have front : cs.dropLast.head? ≠ some '/' := by
      cases cs with
      | nil => exact no_slash
      | cons c cs => cases cs <;> simp_all
    have first : (escapeSet [] cs.dropLast).head? ≠ some '/' := head?_escapeSet_ne_slash front
    refine ⟨List.forall_mem_append.2 ⟨fun _ => printable_of_mem_escapeSet, by simp⟩, ?_, ?_⟩
    · rw [List.head?_append]
      cases ending : (escapeSet [] cs.dropLast).head? <;> simp_all
    · simp
  · next no_blank =>
    exact ⟨fun _ => printable_of_mem_escapeSet, head?_escapeSet_ne_slash no_slash,
      getLast?_escapeSet_ne_blank no_blank⟩

theorem exists_readPath (isSpecial isFile : Bool) (cs : List Char) :
    ∃ segments, readPath isSpecial isFile cs = .segments segments := by
  unfold readPath
  dsimp only
  split <;> exact ⟨_, rfl⟩

/-- What was read of a `blob` URL has a path of segments, or only a text behind its scheme. -/
theorem opaqueText_of_readHierarchy? {cs : List Char} {u : Url}
    (h : readHierarchy? toAscii "blob".toList cs = some u) :
    (∃ segments, u.path = .segments segments) ∨ OpaqueText (escapeOpaque cs)
      ∧ u = { scheme := "blob".toList, path := .opaqueText (escapeOpaque cs) } := by
  have special : isSpecialScheme "blob".toList = false := by decide
  unfold Url.readHierarchy? at h
  rw [if_neg (by decide), special] at h
  split at h
  · contradiction
  split at h
  · simp only [Option.bind_eq_bind, Option.bind_eq_some_iff, Option.pure_def,
      Option.some.injEq] at h
    obtain ⟨front, -, rfl⟩ := h
    exact .inl (exists_readPath _ _ _)
  · next rest _ =>
    obtain rfl := Option.some.inj h
    exact .inl (exists_readPath false false ('/' :: rest))
  · next other =>
    refine .inr ⟨opaqueText_escapeOpaque fun slash => ?_, (Option.some.inj h).symm⟩
    obtain ⟨rest, rfl⟩ := List.head?_eq_some_iff.1 slash
    exact other rest rfl

/-! ## Reading again -/

/-- A URL all of whose parts are read back. -/
structure Stable (toAscii : DomainToAscii) (u : Url) : Prop where
  scheme : u.scheme ∈ ["http".toList, "https".toList, "blob".toList]
  escaped : u.Escaped
  printable : ∀ c ∈ u.headChars, 0x20 ≤ c.toNat
  ends : ∀ c ∈ u.headChars.getLast?, 0x20 < c.toNat
  hierarchy : readHierarchy? toAscii u.scheme (u.authorityChars ++ UrlPath.chars u.path)
    = some { u with query := none, fragment := none }
  query : u.QueryEscaped
  fragment : u.fragment.map (escapeSet fragmentSet) = u.fragment

namespace Stable

variable {u : Url}

theorem readScheme? (h : u.Stable toAscii) (rest : List Char) :
    readScheme? (u.scheme ++ ':' :: rest) = some (u.scheme, rest) := by
  have letters : ∀ scheme ∈ ["http".toList, "https".toList, "blob".toList], ':' ∉ scheme := by
    decide
  have cut : splitAtMark ':' (u.scheme ++ ':' :: rest) = (u.scheme, some rest) :=
    splitAtMark_eq_iff.2 ⟨letters _ h.scheme, rfl⟩
  rw [Url.readScheme?, cut]
  have := h.scheme
  simp only [List.mem_cons, List.not_mem_nil, or_false] at this
  rcases this with scheme | scheme | scheme <;> rw [scheme] <;> rfl

/-- No blank is at the end of the text. -/
theorem visible_of_getLast? (h : u.Stable toAscii) : ∀ c ∈ u.chars.getLast?, 0x20 < c.toNat := by
  intro c hc
  rw [chars_eq, List.getLast?_append] at hc
  cases ending : (behind '?' u.query ++ behind '#' u.fragment).getLast? with
  | none => exact h.ends c (by simpa [ending] using hc)
  | some d =>
    rw [ending] at hc
    obtain rfl : d = c := Option.some.inj hc
    exact h.escaped.visible d (List.mem_of_getLast? ending)

/-- A URL is read back. -/
theorem parse?_render (h : u.Stable toAscii) : parse? toAscii u.render = some u := by
  have first : ∀ c ∈ u.chars.head?, 0x20 < c.toNat := by
    have := h.scheme
    simp only [List.mem_cons, List.not_mem_nil, or_false] at this
    rcases this with scheme | scheme | scheme <;> simp [chars, scheme]
  have printable : ∀ c ∈ u.chars, 0x20 ≤ c.toNat := by
    rw [chars_eq]
    exact List.forall_mem_append.2 ⟨h.printable, fun c hc => Nat.le_of_lt (h.escaped.visible c hc)⟩
  have cleaned : clean u.render.toList
      = u.headChars ++ (behind '?' u.query ++ behind '#' u.fragment) := by
    rw [render, String.toList_ofList, clean_of_printable printable first h.visible_of_getLast?,
      chars_eq]
  obtain ⟨head, no_query, cut⟩ := h.escaped.splitAtMark_render
  obtain rfl : head = u.headChars := by
    have whole := (splitAtMark_eq_iff.1 cut).2
    rw [cleaned, List.append_assoc] at whole
    exact (List.append_cancel_right whole).symm
  let rest := u.authorityChars ++ UrlPath.chars u.path
  have front : u.headChars = u.scheme ++ ':' :: rest := by simp [headChars, rest]
  have query_cut : splitAtMark '?' (rest ++ behind '?' u.query) = (rest, u.query) :=
    splitAtMark_eq_iff.2 ⟨fun hq => no_query (by simp [front, hq]), rfl⟩
  have query := h.query
  unfold QueryEscaped at query
  refine parse?_eq_some_iff.2 ⟨u.scheme, rest ++ behind '?' u.query,
    { u with query := none, fragment := none }, ?_, ?_, ?_⟩
  · rw [cut, front, List.append_assoc, List.cons_append]
    exact h.readScheme? _
  · rw [query_cut]
    exact h.hierarchy
  · rw [query_cut, cut]
    simp only [query, h.fragment]

/-- Another query may stand in a URL. -/
theorem withQuery (h : u.Stable toAscii) {query : Option (List Char)}
    (fixed : QueryEscaped { u with query }) : Stable toAscii { u with query } where
  scheme := h.scheme
  escaped := { h.escaped with
    query := fun c hc => by
      rw [← fixed] at hc
      obtain ⟨cs, hc⟩ := mem_getD_map_escapeSet hc
      refine ⟨visible_of_mem_escapeSet (by simp [querySet]) hc, ?_⟩
      rintro rfl
      exact not_mem_escapeSet cs (by simp [querySet]) (.inr rfl) hc }
  printable := h.printable
  ends := h.ends
  hierarchy := h.hierarchy
  query := fixed
  fragment := h.fragment

end Stable

theorem scheme_of_readAuthority? {scheme cs : List Char} {u : Url}
    (h : readAuthority? toAscii scheme cs = some u) : u.scheme = scheme := by
  unfold readAuthority? at h
  dsimp only at h
  split at h
  · simp at h
  · simp only [Option.bind_eq_bind, Option.bind_eq_some_iff, Option.pure_def,
      Option.some.injEq] at h
    obtain ⟨host, -, port, -, rfl⟩ := h
    rfl

theorem scheme_of_readHierarchy? {scheme cs : List Char} {u : Url}
    (h : readHierarchy? toAscii scheme cs = some u) : u.scheme = scheme := by
  have front {authority path : List Char} {isSpecial isFile : Bool}
      (h : (do return { ← readAuthority? toAscii scheme authority with
        path := readPath isSpecial isFile path }) = some u) : u.scheme = scheme := by
    simp only [Option.bind_eq_bind, Option.bind_eq_some_iff, Option.pure_def,
      Option.some.injEq] at h
    obtain ⟨w, read, rfl⟩ := h
    have same := scheme_of_readAuthority? read
    exact same
  unfold readHierarchy? at h
  split at h
  · unfold readFile? at h
    split at h
    · dsimp only at h
      split at h
      · exact Option.some.inj h ▸ rfl
      split at h
      · exact Option.some.inj h ▸ rfl
      · simp only [Option.bind_eq_bind, Option.bind_eq_some_iff, Option.pure_def,
          Option.some.injEq] at h
        obtain ⟨host, -, rfl⟩ := h
        rfl
    · exact Option.some.inj h ▸ rfl
  split at h
  · exact front h
  split at h
  · exact front h
  · exact Option.some.inj h ▸ rfl
  · exact Option.some.inj h ▸ rfl

/-- The query of a URL that was read needs no more escapes. -/
theorem queryEscaped_of_parse? {s : String} {u : Url} (parsed : parse? toAscii s = some u) :
    u.QueryEscaped := by
  obtain ⟨read, rest, w, -, front, rfl⟩ := parse?_eq_some_iff.1 parsed
  rw [QueryEscaped]
  dsimp only
  rw [scheme_of_readHierarchy? front, Option.map_map]
  have keeps : KeepsEscapes (querySet (isSpecialScheme read)) := by
    cases isSpecialScheme read <;> decide
  exact congrArg (Option.map · _) (funext (escapeSet_escapeSet keeps))

/-- A URL that was read is stable if what stands in front of its query is read back. -/
theorem stable_of_parse? {s : String} {u : Url} (parsed : parse? toAscii s = some u)
    (scheme : u.scheme ∈ ["http".toList, "https".toList, "blob".toList])
    (printable : ∀ c ∈ u.headChars, 0x20 ≤ c.toNat)
    (ends : ∀ c ∈ u.headChars.getLast?, 0x20 < c.toNat)
    (hierarchy : readHierarchy? toAscii u.scheme (u.authorityChars ++ UrlPath.chars u.path)
      = some { u with query := none, fragment := none }) : u.Stable toAscii := by
  refine ⟨scheme, escaped_of_parse? parsed, printable, ends, hierarchy,
    queryEscaped_of_parse? parsed, ?_⟩
  obtain ⟨read, rest, w, -, -, rfl⟩ := parse?_eq_some_iff.1 parsed
  dsimp only
  rw [Option.map_map]
  exact congrArg (Option.map · _) (funext (escapeSet_escapeSet (by decide)))

/-! ## URLs that are read back -/

theorem Web.stable {s : String} {u : Url} (h : u.Web toAscii) (parsed : parse? toAscii s = some u) :
    u.Stable toAscii := by
  refine stable_of_parse? parsed ?_ (fun c hc => Nat.le_of_lt (h.visible c hc))
    (fun c hc => h.visible c (List.mem_of_getLast? hc)) h.readHierarchy?_chars
  rcases h.scheme with scheme | scheme <;> rw [scheme] <;> decide

/-- A `blob` URL with nothing but a text in front of its query. -/
structure Blob (u : Url) (p : List Char) : Prop where
  parts : u = { scheme := "blob".toList, path := .opaqueText p, query := u.query
                fragment := u.fragment }
  text : OpaqueText p

namespace Blob

variable {u : Url} {p : List Char}

theorem scheme (h : u.Blob p) : u.scheme = "blob".toList := by
  rw [h.parts]

theorem headChars (h : u.Blob p) : u.headChars = "blob:".toList ++ p := by
  rw [h.parts]
  rfl

theorem printable (h : u.Blob p) : ∀ c ∈ u.headChars, 0x20 ≤ c.toNat := by
  rw [h.headChars, List.forall_mem_append]
  exact ⟨List.all_iff_forall_prop.1 (by decide), fun c hc => (h.text.kept c hc).1⟩

/-- What stands in front of the query ends in a character of the path, or in the colon. -/
theorem ends (h : u.Blob p) : ∀ c ∈ u.headChars.getLast?, 0x20 < c.toNat := by
  intro c hc
  rw [h.headChars, List.getLast?_append] at hc
  cases ending : p.getLast? with
  | none =>
    rw [ending] at hc
    obtain rfl : ':' = c := Option.some.inj hc
    decide
  | some d =>
    rw [ending] at hc
    obtain rfl : d = c := Option.some.inj hc
    have printable := (h.text.kept d (List.mem_of_getLast? ending)).1
    have no_blank : d.toNat ≠ 0x20 := fun blank => by
      obtain rfl : d = ' ' := Char.toNat_inj.1 blank
      exact h.text.no_blank ending
    omega

theorem hierarchy (h : u.Blob p) :
    readHierarchy? toAscii u.scheme (u.authorityChars ++ UrlPath.chars u.path)
      = some { u with query := none, fragment := none } := by
  rw [h.parts]
  exact h.text.readHierarchy?

theorem stable {s : String} (h : u.Blob p) (parsed : parse? toAscii s = some u) :
    u.Stable toAscii := by
  refine stable_of_parse? parsed ?_ h.printable h.ends h.hierarchy
  rw [h.scheme]
  decide

end Blob

/-- Which URLs of three schemes are read. -/
theorem web_or_blob_of_parse? (lawful : toAscii.Lawful) {s : String} {u : Url}
    (parsed : parse? toAscii s = some u)
    (scheme : u.scheme ∈ ["http".toList, "https".toList, "blob".toList]) :
    u.Web toAscii ∨ (∃ p, u.Blob p)
      ∨ u.scheme = "blob".toList ∧ ∃ segments, u.path = .segments segments := by
  obtain ⟨read, rest, w, -, front, rfl⟩ := parse?_eq_some_iff.1 parsed
  obtain rfl := scheme_of_readHierarchy? front
  simp only [List.mem_cons, List.not_mem_nil, or_false] at scheme
  rw [← or_assoc] at scheme
  rcases scheme with web | blob
  · have known := (web_of_readHierarchy? lawful web front).1
    exact .inl ⟨known.scheme, known.username, known.password, known.host, known.port, known.path⟩
  · rw [blob] at front
    rcases opaqueText_of_readHierarchy? front with segments | ⟨text, rfl⟩
    · exact .inr (.inr ⟨blob, segments⟩)
    · exact .inr (.inl ⟨_, rfl, text⟩)

/-- A URL that was read is read back with any query. -/
theorem parse?_render_withQuery {s : String} {u : Url} (parsed : parse? toAscii s = some u)
    (known : u.Web toAscii ∨ ∃ p, u.Blob p) {query : Option (List Char)}
    (fixed : QueryEscaped { u with query }) :
    parse? toAscii (render { u with query }) = some { u with query } := by
  have stable : u.Stable toAscii := by
    rcases known with web | ⟨p, blob⟩
    · exact web.stable parsed
    · exact blob.stable parsed
  exact (stable.withQuery fixed).parse?_render

end TorznabGateway.Url
