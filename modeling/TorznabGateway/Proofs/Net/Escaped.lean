import TorznabGateway.Proofs.Net.Reading
import TorznabGateway.Proofs.Text.LetterCase

/-!
# What is escaped in a URL

A question mark starts the query of a URL, a number sign its fragment. In the parts that stand in
front of the query neither occurs once a URL has been read: they have been cut off there, and what
came in as an escape is kept as one or is refused.

## Main definitions

* `Url.Unmarked`: texts without a question mark and without a number sign.
* `Url.Escaped`: URLs in whose parts nothing is read as the start of another part.

## Main statements

* `Url.mem_escapeSet`: what is written with escapes.
* `Url.escaped_of_parse?`: a URL that was read is escaped.
-/
namespace TorznabGateway

open Text Encoding

/-! ## Digits of addresses -/

namespace IpAddress

theorem mem_v4Chars {a b c d : Nat} {ch : Char} (h : ch ∈ v4Chars a b c d) :
    ch = '.' ∨ ch.isDigit := by
  rcases mem_joinWith h with separator | ⟨octet, ho, hc⟩
  · exact .inl (List.mem_singleton.1 separator)
  · obtain ⟨n, -, rfl⟩ := List.mem_map.1 ho
    exact .inr (Decimal.isDigit_of_mem hc)

theorem mem_groupsChars {groups : List Nat} {c : Char} (h : c ∈ groupsChars groups) :
    c = ':' ∨ ∃ n < 16, c = Hex.digit n := by
  rcases mem_joinWith h with separator | ⟨group, hg, hc⟩
  · exact .inl (List.mem_singleton.1 separator)
  · obtain ⟨n, -, rfl⟩ := List.mem_map.1 hg
    obtain ⟨d, hd, rfl⟩ := List.mem_map.1 hc
    refine .inr ⟨d, ?_, rfl⟩
    rcases List.mem_append.1 hd with high | last
    · have := (List.dropWhile_sublist _).mem high
      simp only [List.mem_cons, List.not_mem_nil, or_false] at this
      omega
    · have := List.mem_singleton.1 last
      omega

theorem mem_v6Chars {groups : List Nat} {c : Char} (h : c ∈ v6Chars groups) :
    c = ':' ∨ ∃ n < 16, c = Hex.digit n := by
  unfold v6Chars at h
  dsimp only at h
  split at h
  · simp only [List.mem_append, List.mem_cons, List.not_mem_nil, or_false, or_self] at h
    rcases h with (front | colon) | back
    · exact mem_groupsChars front
    · exact .inl colon
    · exact mem_groupsChars back
  · exact mem_groupsChars h

end IpAddress

namespace Url

variable {toAscii : DomainToAscii}

/-! ## Marks -/

/-- Whether no character of a text starts a query or a fragment. -/
def Unmarked (cs : List Char) : Prop :=
  ∀ c ∈ cs, c ≠ '?' ∧ c ≠ '#'

theorem unmarked_nil : Unmarked [] := by
  simp [Unmarked]

@[simp] theorem unmarked_cons_iff {c : Char} {cs : List Char} :
    Unmarked (c :: cs) ↔ (c ≠ '?' ∧ c ≠ '#') ∧ Unmarked cs :=
  List.forall_mem_cons

@[simp] theorem unmarked_append_iff {cs ds : List Char} :
    Unmarked (cs ++ ds) ↔ Unmarked cs ∧ Unmarked ds :=
  List.forall_mem_append

theorem ne_mark_of_isDigit {c : Char} (h : c.isDigit) : c ≠ '?' ∧ c ≠ '#' := by
  refine ⟨?_, ?_⟩ <;> rintro rfl <;> exact absurd h (by decide)

/-! ## Escapes -/

theorem digit_ne_mark {n : Nat} (h : n < 16) : Hex.digit n ≠ '?' ∧ Hex.digit n ≠ '#' := by
  revert n
  decide

theorem upperDigit_ne_mark {n : Nat} (h : n < 16) :
    Hex.upperDigit n ≠ '?' ∧ Hex.upperDigit n ≠ '#' ∧ 0x20 < (Hex.upperDigit n).toNat := by
  revert n
  decide

/-- What is written with escapes is kept from the text, or is part of an escape. -/
theorem mem_escapeSet {special cs : List Char} {c : Char} (h : c ∈ escapeSet special cs) :
    (c ∈ cs ∧ 0x20 ≤ c.toNat ∧ c.toNat ≤ 0x7E ∧ c ∉ special)
      ∨ c = '%' ∨ ∃ n < 16, c = Hex.upperDigit n := by
  obtain ⟨b, hb, hc⟩ := List.mem_flatMap.1 h
  split at hc
  · next kept =>
    obtain rfl := List.mem_singleton.1 hc
    simp only [Bool.and_eq_true, decide_eq_true_eq, Bool.not_eq_true', List.contains_eq_mem,
      decide_eq_false_iff_not] at kept
    have back : (Char.ofNat b.toNat).toNat = b.toNat := by
      have all : ∀ n ≤ 0x7E, (Char.ofNat n).toNat = n := by decide
      exact all _ kept.1.2
    have given := Utf8.ofNat_mem_of_mem_encodeChars hb (by omega)
    exact .inl ⟨given, by omega, by omega, kept.2⟩
  · exact .inr (Percent.mem_escape hc)

/-- Visible characters that are not to be escaped are kept. -/
theorem escapeSet_of_kept {special cs : List Char}
    (h : ∀ c ∈ cs, 0x20 ≤ c.toNat ∧ c.toNat ≤ 0x7E ∧ c ∉ special) : escapeSet special cs = cs := by
  induction cs with
  | nil => rfl
  | cons c cs ih =>
    obtain ⟨low, high, plain⟩ := h c List.mem_cons_self
    have byte : (UInt8.ofNat c.toNat).toNat = c.toNat :=
      UInt8.toNat_ofNat_of_lt' (Nat.lt_of_le_of_lt high (by decide))
    have rest := ih fun d hd => h d (List.mem_cons_of_mem c hd)
    rw [escapeSet, Percent.encodeBytes] at rest ⊢
    rw [Utf8.encodeChars_cons, Utf8.encodeChar_of_lt (by omega), List.singleton_append,
      List.flatMap_cons, rest]
    simp [byte, low, high, plain]

theorem unmarked_escapeSet {special cs : List Char} (h : Unmarked cs) :
    Unmarked (escapeSet special cs) := by
  intro c hc
  rcases mem_escapeSet hc with ⟨given, -⟩ | rfl | ⟨n, digit, rfl⟩
  · exact h c given
  · decide
  · exact ⟨(upperDigit_ne_mark digit).1, (upperDigit_ne_mark digit).2.1⟩

theorem unmarked_escapeOpaque {cs : List Char} (h : Unmarked cs) : Unmarked (escapeOpaque cs) := by
  unfold escapeOpaque
  split
  · have front : Unmarked cs.dropLast := fun c hc => h c (List.dropLast_subset _ hc)
    have blank : Unmarked "%20".toList := by simp [Unmarked]
    exact unmarked_append_iff.2 ⟨unmarked_escapeSet front, blank⟩
  · exact unmarked_escapeSet h

/-- Where marks are escaped, none is left. -/
theorem not_mem_escapeSet {special : List Char} (cs : List Char) {mark : Char}
    (escaped : mark ∈ special) (h : mark = '?' ∨ mark = '#') : mark ∉ escapeSet special cs := by
  intro hc
  rcases mem_escapeSet hc with ⟨-, -, -, plain⟩ | rfl | ⟨n, digit, rfl⟩
  · exact plain escaped
  · exact absurd h (by decide)
  · have := upperDigit_ne_mark digit
    grind

theorem unmarked_escapeSet_of_mem {special : List Char} (cs : List Char) (query : '?' ∈ special)
    (fragment : '#' ∈ special) : Unmarked (escapeSet special cs) :=
  fun _ hc => ⟨fun e => not_mem_escapeSet cs query (.inl rfl) (e ▸ hc),
    fun e => not_mem_escapeSet cs fragment (.inr rfl) (e ▸ hc)⟩

theorem unmarked_escapeSet_pathSet (cs : List Char) : Unmarked (escapeSet pathSet cs) :=
  unmarked_escapeSet_of_mem cs (by decide) (by decide)

theorem unmarked_escapeSet_credentialSet (cs : List Char) :
    Unmarked (escapeSet credentialSet cs) :=
  unmarked_escapeSet_of_mem cs (by decide) (by decide)

/-- Where blanks are escaped, only visible characters are left. -/
theorem visible_of_mem_escapeSet {special cs : List Char} (blank : ' ' ∈ special) {c : Char}
    (h : c ∈ escapeSet special cs) : 0x20 < c.toNat := by
  rcases mem_escapeSet h with ⟨-, low, -, plain⟩ | rfl | ⟨n, digit, rfl⟩
  · have : c.toNat ≠ 0x20 := by
      intro e
      have : c = ' ' := Char.toNat_inj.1 e
      exact plain (this ▸ blank)
    omega
  · decide
  · exact (upperDigit_ne_mark digit).2.2

theorem mem_getD_map_escapeSet {special : List Char} {part : Option (List Char)} {c : Char}
    (h : c ∈ (part.map (escapeSet special)).getD []) : ∃ cs, c ∈ escapeSet special cs := by
  cases part with
  | none => simp at h
  | some cs => exact ⟨cs, h⟩

/-! ## Hosts -/

theorem unmarked_address? {parts : List Nat} {host : List Char} (h : address? parts = some host) :
    Unmarked host := by
  unfold address? at h
  split at h
  · simp at h
  · dsimp only at h
    split at h
    · simp at h
    · obtain rfl := Option.some.inj h
      intro c hc
      rcases IpAddress.mem_v4Chars hc with rfl | digit
      · decide
      · exact ne_mark_of_isDigit digit

theorem unmarked_of_not_forbidden {p : Char → Bool} {cs : List Char} (query : p '?')
    (fragment : p '#') (h : cs.any p = false) : Unmarked cs := by
  intro c hc
  have plain := List.any_eq_false.1 h c hc
  exact ⟨fun e => plain (e ▸ query), fun e => plain (e ▸ fragment)⟩

theorem unmarked_readDomain? {cs host : List Char} (h : readDomain? toAscii cs = some host) :
    Unmarked host := by
  obtain ⟨name, -, h⟩ := Option.bind_eq_some_iff.1 h
  split at h
  · simp at h
  · next allowed =>
    simp only [Bool.or_eq_true, not_or, Bool.not_eq_true] at allowed
    split at h
    · obtain ⟨parts, -, address⟩ := Option.bind_eq_some_iff.1 h
      exact unmarked_address? address
    · obtain rfl := Option.some.inj h
      exact unmarked_of_not_forbidden (by decide) (by decide) allowed.2

theorem unmarked_readHost? {isSpecial : Bool} {cs host : List Char}
    (h : readHost? toAscii isSpecial cs = some host) : Unmarked host := by
  unfold readHost? at h
  split at h
  · split at h
    · split at h
      · obtain rfl := Option.some.inj h
        intro c hc
        simp only [List.mem_append, List.mem_cons, List.not_mem_nil, or_false] at hc
        rcases hc with (rfl | digit) | rfl
        · decide
        · rcases IpAddress.mem_v6Chars digit with rfl | ⟨n, small, rfl⟩
          · decide
          · exact digit_ne_mark small
        · decide
      · simp at h
    · simp at h
  · split at h
    · exact unmarked_readDomain? h
    · split at h
      · simp at h
      · next allowed =>
        obtain rfl := Option.some.inj h
        rw [Bool.not_eq_true] at allowed
        exact unmarked_escapeSet (unmarked_of_not_forbidden (by decide) (by decide) allowed)

/-! ## Paths -/

theorem unmarked_resolveSegments (isFile : Bool) {before : List (List Char)}
    (kept : ∀ s ∈ before, Unmarked s) (segments : List (List Char)) :
    ∀ s ∈ resolveSegments isFile before segments, Unmarked s := by
  have shortened {before : List (List Char)} (kept : ∀ s ∈ before, Unmarked s) :
      ∀ s ∈ shorten isFile before, Unmarked s := by
    unfold shorten
    split
    · split
      · exact kept
      · simp
    · exact fun s hs => kept s (List.dropLast_subset _ hs)
  have added {before : List (List Char)} (kept : ∀ s ∈ before, Unmarked s) (s : List Char) :
      ∀ t ∈ addSegment isFile before s, Unmarked t :=
    List.forall_mem_append.2 ⟨kept, by simpa using unmarked_escapeSet_pathSet _⟩
  have closed {before : List (List Char)} (kept : ∀ s ∈ before, Unmarked s) :
      ∀ s ∈ before ++ [[]], Unmarked s :=
    List.forall_mem_append.2 ⟨kept, by simpa using unmarked_nil⟩
  fun_induction resolveSegments isFile before segments with
  | case1 before => exact kept
  | case2 before s up => exact closed (shortened kept)
  | case3 before s _ here => exact closed kept
  | case4 before s _ _ => exact added kept s
  | case5 before s t rest up ih => exact ih (shortened kept)
  | case6 before s t rest _ here ih => exact ih kept
  | case7 before s t rest _ _ ih => exact ih (added kept s)

theorem unmarked_readPath (isSpecial isFile : Bool) (cs : List Char) :
    Unmarked (UrlPath.chars (readPath isSpecial isFile cs)) := by
  have resolved (segments : List (List Char)) :
      Unmarked (UrlPath.chars (.segments (resolveSegments isFile [] segments))) := by
    intro c hc
    obtain ⟨s, hs, hc⟩ := List.mem_flatMap.1 hc
    rcases List.mem_cons.1 hc with rfl | hc
    · decide
    · exact unmarked_resolveSegments isFile (by simp) segments s hs c hc
  have empty : Unmarked (UrlPath.chars (.segments (if isSpecial then [[]] else []))) := by
    cases isSpecial <;> simp [UrlPath.chars, unmarked_nil]
  unfold readPath
  dsimp only
  split
  · exact empty
  · exact resolved _
  · exact resolved _

/-! ## Schemes -/

theorem InScheme.unmarked {cs : List Char} (h : ∀ c ∈ cs, InScheme c) : Unmarked cs := by
  intro c hc
  refine ⟨?_, ?_⟩ <;> rintro rfl <;> exact absurd (h _ hc) (by unfold InScheme; decide)

theorem unmarked_map_toLower {cs : List Char} (h : Unmarked cs) :
    Unmarked (cs.map Char.toLower) := by
  intro _ lowered
  obtain ⟨c, hc, rfl⟩ := List.mem_map.1 lowered
  have same := toLower_congr (f := fun c => decide (c ≠ '?' ∧ c ≠ '#')) (by decide) c
  exact (decide_eq_decide.1 same).2 (h c hc)

/-! ## URLs -/

/-- Whether no part of a URL is read as the start of another part. -/
structure Escaped (u : Url) : Prop where
  scheme : Unmarked u.scheme
  username : Unmarked u.username
  password : Unmarked u.password
  host : ∀ host ∈ u.host, Unmarked host
  path : Unmarked (UrlPath.chars u.path)
  query : ∀ c ∈ u.query.getD [], 0x20 < c.toNat ∧ c ≠ '#'
  fragment : ∀ c ∈ u.fragment.getD [], 0x20 < c.toNat

theorem Escaped.headChars {u : Url} (h : u.Escaped) : Unmarked u.headChars := by
  have port : Unmarked u.portChars := by
    unfold portChars
    split
    · exact unmarked_cons_iff.2
        ⟨by decide, fun c hc => ne_mark_of_isDigit (Decimal.isDigit_of_mem hc)⟩
    · exact unmarked_nil
  have credentials : Unmarked u.credentialChars := by
    unfold credentialChars
    split
    · exact unmarked_nil
    split
    · simp [h.username, unmarked_nil]
    · simp [h.username, h.password, unmarked_nil]
  have authority : Unmarked u.authorityChars := by
    unfold authorityChars
    split
    · next host named => simp [credentials, h.host host named, port]
    · split <;> simp [unmarked_nil]
  simp [Url.headChars, h.scheme, authority, h.path]

theorem escaped_of_readAuthority? {scheme cs : List Char} {u : Url} (hs : Unmarked scheme)
    (h : readAuthority? toAscii scheme cs = some u) : u.Escaped := by
  unfold readAuthority? at h
  dsimp only at h
  split at h
  · simp at h
  · simp only [Option.bind_eq_bind, Option.bind_eq_some_iff, Option.pure_def,
      Option.some.injEq] at h
    obtain ⟨host, read, port, -, rfl⟩ := h
    exact {
      scheme := hs
      username := unmarked_escapeSet_credentialSet _
      password := unmarked_escapeSet_credentialSet _
      host := by simpa using unmarked_readHost? read
      path := by simp [UrlPath.chars, unmarked_nil]
      query := by simp
      fragment := by simp }

/-- A path that was read may follow what has a host. -/
theorem escaped_of_readAuthority?_path {scheme cs path : List Char} {isSpecial isFile : Bool}
    {u : Url} (hs : Unmarked scheme)
    (h : (do
        return { ← readAuthority? toAscii scheme cs with path := readPath isSpecial isFile path })
      = some u) : u.Escaped := by
  simp only [Option.bind_eq_bind, Option.bind_eq_some_iff, Option.pure_def,
    Option.some.injEq] at h
  obtain ⟨front, read, rfl⟩ := h
  exact { escaped_of_readAuthority? hs read with
    path := unmarked_readPath isSpecial isFile path }

theorem escaped_of_host {scheme : List Char} (hs : Unmarked scheme) {host : Option (List Char)}
    (hh : ∀ cs ∈ host, Unmarked cs) {path : UrlPath} (hp : Unmarked (UrlPath.chars path)) :
    Escaped { scheme, host, path } where
  scheme := hs
  username := unmarked_nil
  password := unmarked_nil
  host := hh
  path := hp
  query := by simp
  fragment := by simp

theorem escaped_of_readFile? {scheme cs : List Char} {u : Url} (hs : Unmarked scheme)
    (h : readFile? toAscii scheme cs = some u) : u.Escaped := by
  have local_file (path : List Char) :
      Escaped { scheme, host := some [], path := readPath true true path } :=
    escaped_of_host hs (by simp [unmarked_nil]) (unmarked_readPath true true path)
  unfold readFile? at h
  split at h
  · dsimp only at h
    split at h
    · exact Option.some.inj h ▸ local_file _
    split at h
    · exact Option.some.inj h ▸ local_file _
    · simp only [Option.bind_eq_bind, Option.bind_eq_some_iff, Option.pure_def,
        Option.some.injEq] at h
      obtain ⟨host, read, rfl⟩ := h
      refine escaped_of_host hs ?_ (unmarked_readPath _ _ _)
      split
      · simp [unmarked_nil]
      · simpa using unmarked_readHost? read
  · exact Option.some.inj h ▸ local_file _

theorem escaped_of_readHierarchy? {scheme cs : List Char} {u : Url} (hs : Unmarked scheme)
    (hc : Unmarked cs) (h : readHierarchy? toAscii scheme cs = some u) : u.Escaped := by
  unfold readHierarchy? at h
  split at h
  · exact escaped_of_readFile? hs h
  split at h
  · exact escaped_of_readAuthority?_path hs h
  split at h
  · exact escaped_of_readAuthority?_path hs h
  · obtain rfl := Option.some.inj h
    exact escaped_of_host hs (by simp) (unmarked_readPath _ _ _)
  · obtain rfl := Option.some.inj h
    exact escaped_of_host hs (by simp) (unmarked_escapeOpaque hc)

/-- A URL that was read is escaped. -/
theorem escaped_of_parse? {s : String} {u : Url} (h : parse? toAscii s = some u) : u.Escaped := by
  obtain ⟨scheme, rest, w, front, hierarchy, rfl⟩ := parse?_eq_some_iff.1 h
  obtain ⟨written, allowed, rfl, text⟩ := readScheme?_eq_some front
  have no_fragment := (splitAtMark_spec '#' (clean s.toList)).1
  have cut := splitAtMark_spec '?' rest
  have unmarked : Unmarked (splitAtMark '?' rest).1 := by
    intro c hc
    have inside : c ∈ (splitAtMark '#' (clean s.toList)).1 := by
      have : c ∈ rest := by
        rw [cut.2]
        exact List.mem_append_left _ hc
      simp [text, this]
    refine ⟨?_, ?_⟩ <;> rintro rfl
    · exact cut.1 hc
    · exact no_fragment inside
  have parts := escaped_of_readHierarchy? (unmarked_map_toLower (InScheme.unmarked allowed))
    unmarked hierarchy
  refine ⟨parts.scheme, parts.username, parts.password, parts.host, parts.path, ?query, ?fragment⟩
  case query =>
    intro c hc
    obtain ⟨cs, hc⟩ := mem_getD_map_escapeSet hc
    refine ⟨visible_of_mem_escapeSet (by simp [querySet]) hc, ?_⟩
    rintro rfl
    exact not_mem_escapeSet cs (by simp [querySet]) (.inr rfl) hc
  case fragment =>
    intro c hc
    obtain ⟨cs, hc⟩ := mem_getD_map_escapeSet hc
    exact visible_of_mem_escapeSet (by simp [fragmentSet]) hc

end Url

end TorznabGateway
