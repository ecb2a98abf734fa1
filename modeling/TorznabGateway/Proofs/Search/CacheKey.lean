import Mathlib.Data.List.Basic
import TorznabGateway.Torznab.Request

/-!
# What a cache key tells of a query

The key of a query is the hash of fourteen lines. The text, the season and the episode are written
into their lines as they are, so a line feed in one of them makes two lines of one, and the lines
alone do not tell where a field ends. They do as soon as it is known how many line feeds there are
in the season and the episode: queries that agree in this and have one text under their keys ask for
the same search. Queries for one search always have one text under their keys.

## Main definitions

* `SearchQuery.SameSearch`: two queries ask for the same, up to the order of categories, letter case
  and blanks.
* `SearchQuery.HasPlainTitle`: the title number is written as requests write it.

## Main statements

* `SearchQuery.sameSearch_of_canonicalText_eq`: what one text under two keys says of the queries.
* `SearchQuery.SameSearch.canonicalText_eq`: queries for one search have one text under their keys.
-/
namespace TorznabGateway

namespace SearchQuery

open Text

/-! ## One field -/

theorem optionDigits_injective : Function.Injective optionDigits := by
  intro m n h
  cases m with
  | none =>
    cases n with
    | none => rfl
    | some n => exact absurd h.symm (Decimal.digits_ne_nil n)
  | some m =>
    cases n with
    | none => exact absurd h (Decimal.digits_ne_nil m)
    | some n => rw [Decimal.digits_injective h]

theorem isDigit_of_mem_optionDigits {n : Option Nat} {c : Char} (h : c ∈ optionDigits n) :
    c.isDigit := by
  cases n with
  | none => simp [optionDigits] at h
  | some n => exact Decimal.isDigit_of_mem h

theorem mem_insertCategory {m n : Nat} {ns : List Nat} :
    m ∈ insertCategory n ns ↔ m = n ∨ m ∈ ns := by
  induction ns with
  | nil => simp [insertCategory]
  | cons k ns ih => grind [insertCategory]

theorem mem_categorySet {n : Nat} {categories : List Nat} :
    n ∈ categorySet categories ↔ n ∈ categories := by
  induction categories with
  | nil => rfl
  | cons m ms ih => rw [categorySet, List.foldr_cons, mem_insertCategory, List.mem_cons, ← ih]; rfl

theorem pairwise_insertCategory {n : Nat} {ns : List Nat} (h : ns.Pairwise (· < ·)) :
    (insertCategory n ns).Pairwise (· < ·) := by
  induction ns with
  | nil => simp [insertCategory]
  | cons m ms ih =>
    obtain ⟨first, rest⟩ := List.pairwise_cons.1 h
    rw [insertCategory]
    split
    · next less => exact List.pairwise_cons.2 ⟨by grind, h⟩
    · split
      · exact h
      · exact List.pairwise_cons.2 ⟨by grind [mem_insertCategory], ih rest⟩

theorem pairwise_categorySet (categories : List Nat) :
    (categorySet categories).Pairwise (· < ·) := by
  induction categories with
  | nil => exact .nil
  | cons n ns ih => exact pairwise_insertCategory ih

/-- Of categories only matters which of them there are. -/
theorem categorySet_congr {cs ds : List Nat} (h : ∀ n, n ∈ cs ↔ n ∈ ds) :
    categorySet cs = categorySet ds := by
  have members (n : Nat) : n ∈ categorySet cs ↔ n ∈ categorySet ds := by
    rw [mem_categorySet, mem_categorySet, h]
  have distinct (cs : List Nat) : (categorySet cs).Nodup :=
    (pairwise_categorySet cs).imp Nat.ne_of_lt
  exact ((List.perm_ext_iff_of_nodup (distinct cs) (distinct ds)).2 members).eq_of_pairwise
    (fun _ _ _ _ hab hba => absurd hab (Nat.lt_asymm hba))
    (pairwise_categorySet cs) (pairwise_categorySet ds)

/-- The numerals between commas are got back. -/
theorem splitOn_joinWith_digits {ns : List Nat} (ne : ns ≠ []) :
    splitOn ',' (joinWith [','] (ns.map Decimal.digits)) = ns.map Decimal.digits := by
  refine splitOn_joinWith (by simpa using ne) ?_
  intro x hx comma
  obtain ⟨n, -, rfl⟩ := List.mem_map.1 hx
  exact absurd (Decimal.isDigit_of_mem comma) (by decide)

theorem joinWith_digits_ne_nil {ns : List Nat} (ne : ns ≠ []) :
    joinWith [','] (ns.map Decimal.digits) ≠ [] := by
  intro empty
  have pieces := splitOn_joinWith_digits ne
  rw [empty] at pieces
  have stored : [] ∈ ns.map Decimal.digits := by
    rw [← pieces]
    exact List.mem_singleton_self []
  obtain ⟨n, -, blank⟩ := List.mem_map.1 stored
  exact Decimal.digits_ne_nil n blank

theorem joinWith_digits_injective :
    Function.Injective fun ns : List Nat => joinWith [','] (ns.map Decimal.digits) := by
  intro ms ns h
  by_cases hm : ms = []
  · by_contra hn
    subst hm
    exact joinWith_digits_ne_nil (Ne.symm hn) h.symm
  · by_cases hn : ns = []
    · subst hn
      exact absurd h (joinWith_digits_ne_nil hm)
    · have pieces := congrArg (splitOn ',') h
      simp only [splitOn_joinWith_digits hm, splitOn_joinWith_digits hn] at pieces
      exact List.map_injective_iff.2 (fun _ _ => Decimal.digits_injective) pieces

/-- Whether the title number is written as requests write it, if there is one. -/
def HasPlainTitle (q : SearchQuery) : Prop :=
  ∀ id, q.imdbId = some id → ∃ n, id = TorznabRequest.imdbText n

/-- Only the mark in front of a title number is dropped. -/
theorem dropTitleMarks_imdbText (n : Nat) :
    dropTitleMarks (TorznabRequest.imdbText n).toList = Decimal.padded 7 n := by
  have digits (c : Char) (h : c ∈ Decimal.padded 7 n) := Decimal.isDigit_of_mem_padded h
  rw [TorznabRequest.imdbText, String.toList_ofList, dropTitleMarks]
  cases written : Decimal.padded 7 n with
  | nil => rfl
  | cons c cs =>
    have first : c ≠ 't' := by
      rintro rfl
      exact absurd (digits 't' (by simp [written])) (by decide)
    unfold dropTitleMarks
    grind

/-- What stands in the line of a title number. -/
theorem HasPlainTitle.dropTitleMarks_eq {q : SearchQuery} (plain : q.HasPlainTitle) :
    (q.imdbId = none ∧ dropTitleMarks (q.imdbId.getD "").toList = [])
    ∨ ∃ n, q.imdbId = some (TorznabRequest.imdbText n)
      ∧ dropTitleMarks (q.imdbId.getD "").toList = Decimal.padded 7 n := by
  cases title : q.imdbId with
  | none => exact .inl ⟨rfl, rfl⟩
  | some id =>
    obtain ⟨n, rfl⟩ := plain id title
    exact .inr ⟨n, rfl, dropTitleMarks_imdbText n⟩

theorem imdbId_of_dropTitleMarks_eq {p q : SearchQuery} (hp : p.HasPlainTitle)
    (hq : q.HasPlainTitle)
    (h : dropTitleMarks (p.imdbId.getD "").toList = dropTitleMarks (q.imdbId.getD "").toList) :
    p.imdbId = q.imdbId := by
  obtain ⟨hm, pm⟩ | ⟨m, hm, pm⟩ := hp.dropTitleMarks_eq <;>
    obtain ⟨hn, pn⟩ | ⟨n, hn, pn⟩ := hq.dropTitleMarks_eq <;>
    rw [pm, pn] at h
  · rw [hm, hn]
  · exact absurd h.symm (Decimal.padded_ne_nil 7 n)
  · exact absurd h (Decimal.padded_ne_nil 7 m)
  · rw [hm, hn, Decimal.padded_injective h]

/-! ## The lines -/

theorem count_lineFeed_eq_zero {cs : List Char} (h : ∀ c ∈ cs, c.isDigit ∨ c = ',') :
    cs.count '\n' = 0 := by
  refine List.count_eq_zero.2 ?_
  intro feed
  exact absurd (h _ feed) (by decide)

/-- Where line feeds can be in the lines. -/
theorem count_lineFeed_canonicalLines {q : SearchQuery} (plain : q.HasPlainTitle) :
    q.canonicalLines.map (·.count '\n')
      = [0, (lowercase (trim q.text)).toList.count '\n', 0, 0, 0, 0,
        (q.season.getD "").toList.count '\n', (q.episode.getD "").toList.count '\n',
        0, 0, 0, 0, 0, 0] := by
  have digits (n : Nat) : (Decimal.digits n).count '\n' = 0 :=
    count_lineFeed_eq_zero fun c hc => .inl (Decimal.isDigit_of_mem hc)
  have options (n : Option Nat) : (optionDigits n).count '\n' = 0 :=
    count_lineFeed_eq_zero fun c hc => .inl (isDigit_of_mem_optionDigits hc)
  have categories :
      (joinWith [','] ((categorySet q.categories).map Decimal.digits)).count '\n' = 0 := by
    refine count_lineFeed_eq_zero fun c hc => ?_
    rcases mem_joinWith hc with comma | ⟨x, hx, hc⟩
    · exact .inr (List.mem_singleton.1 comma)
    · obtain ⟨n, -, rfl⟩ := List.mem_map.1 hx
      exact .inl (Decimal.isDigit_of_mem hc)
  have title : (dropTitleMarks (q.imdbId.getD "").toList).count '\n' = 0 := by
    refine count_lineFeed_eq_zero fun c hc => .inl ?_
    obtain ⟨-, empty⟩ | ⟨n, -, written⟩ := plain.dropTitleMarks_eq
    · simp [empty] at hc
    · exact Decimal.isDigit_of_mem_padded (written ▸ hc)
  have name : q.function.name.toList.count '\n' = 0 := by
    cases q.function <;> decide
  simp [canonicalLines, digits, options, categories, title, name]

/-- Whether two queries ask for the same search. An absent season or episode counts as an empty
one. -/
structure SameSearch (p q : SearchQuery) : Prop where
  function : p.function = q.function
  text : lowercase (trim p.text) = lowercase (trim q.text)
  categories : ∀ n, n ∈ p.categories ↔ n ∈ q.categories
  imdbId : p.imdbId = q.imdbId
  tmdbId : p.tmdbId = q.tmdbId
  tvdbId : p.tvdbId = q.tvdbId
  season : p.season.getD "" = q.season.getD ""
  episode : p.episode.getD "" = q.episode.getD ""
  limit : p.effectiveLimit = q.effectiveLimit
  offset : p.offset = q.offset
  maxPages : p.maxPages = q.maxPages
  minSize : p.minSize = q.minSize
  maxSize : p.maxSize = q.maxSize
  maxAgeDays : p.maxAgeDays = q.maxAgeDays

theorem sameSearch_of_canonicalLines_eq {p q : SearchQuery} (hp : p.HasPlainTitle)
    (hq : q.HasPlainTitle) (h : p.canonicalLines = q.canonicalLines) : p.SameSearch q := by
  simp only [canonicalLines, List.cons.injEq, List.append_cancel_left_eq, and_true] at h
  obtain ⟨function, text, categories, imdb, tmdb, tvdb, season, episode, limit, offset, pages,
    minSize, maxSize, maxAge⟩ := h
  have names : Function.Injective fun f : SearchFunction => f.name.toList := by
    intro f g
    cases f <;> cases g <;> decide
  have set := joinWith_digits_injective categories
  exact {
    function := names function
    text := String.toList_injective text
    categories n := by rw [← mem_categorySet, set, mem_categorySet]
    imdbId := imdbId_of_dropTitleMarks_eq hp hq imdb
    tmdbId := optionDigits_injective tmdb
    tvdbId := optionDigits_injective tvdb
    season := String.toList_injective season
    episode := String.toList_injective episode
    limit := Decimal.digits_injective limit
    offset := Decimal.digits_injective offset
    maxPages := optionDigits_injective pages
    minSize := optionDigits_injective minSize
    maxSize := optionDigits_injective maxSize
    maxAgeDays := optionDigits_injective maxAge }

/-- Queries with one text under their keys ask for the same search, if they agree in the numbers of
line feeds in the season and in the episode. -/
theorem sameSearch_of_canonicalText_eq {p q : SearchQuery} (hp : p.HasPlainTitle)
    (hq : q.HasPlainTitle) (h : p.canonicalText = q.canonicalText)
    (season : (p.season.getD "").toList.count '\n' = (q.season.getD "").toList.count '\n')
    (episode : (p.episode.getD "").toList.count '\n' = (q.episode.getD "").toList.count '\n') :
    p.SameSearch q := by
  have nonempty (q : SearchQuery) : q.canonicalLines ≠ [] := List.cons_ne_nil _ _
  have feeds {q : SearchQuery} (plain : q.HasPlainTitle) :
      q.canonicalText.count '\n' = (lowercase (trim q.text)).toList.count '\n'
        + (q.season.getD "").toList.count '\n' + (q.episode.getD "").toList.count '\n' + 13 := by
    have total := count_joinWith '\n' (nonempty q)
    rw [List.count_flatten, count_lineFeed_canonicalLines plain] at total
    simp only [List.sum_cons, List.sum_nil, canonicalLines, List.length_cons, List.length_nil]
      at total
    unfold canonicalText canonicalLines
    omega
  -- the text has the line feeds that the season and the episode leave
  have text : (lowercase (trim p.text)).toList.count '\n'
      = (lowercase (trim q.text)).toList.count '\n' := by
    have total := feeds hp
    rw [h, feeds hq] at total
    omega
  have joined : joinWith ['\n'] p.canonicalLines = joinWith ['\n'] q.canonicalLines := h
  refine sameSearch_of_canonicalLines_eq hp hq (joinWith_inj ?_ joined)
  rw [count_lineFeed_canonicalLines hp, count_lineFeed_canonicalLines hq, text, season, episode]

theorem SameSearch.canonicalText_eq {p q : SearchQuery} (h : p.SameSearch q) :
    p.canonicalText = q.canonicalText := by
  simp only [canonicalText, canonicalLines, h.function, h.text, categorySet_congr h.categories,
    h.imdbId, h.tmdbId, h.tvdbId, h.season, h.episode, h.limit, h.offset, h.maxPages, h.minSize,
    h.maxSize, h.maxAgeDays]

/-! ## The key -/

/-- Whether the hash tells the texts under the keys of two queries apart. -/
def HashedApart (p q : SearchQuery) : Prop :=
  Digest.Sha256.digest (Utf8.encodeChars p.canonicalText)
      = Digest.Sha256.digest (Utf8.encodeChars q.canonicalText)
    → p.canonicalText = q.canonicalText

theorem length_uniqueKey (q : SearchQuery) : q.uniqueKey.toList.length = 64 := by
  have two (bs : List UInt8) : (Hex.encodeChars bs).length = 2 * bs.length := by
    induction bs with
    | nil => rfl
    | cons b bs ih => simp only [Hex.encodeChars, List.length_cons, ih]; omega
  rw [uniqueKey, Hex.encode, String.toList_ofList, two, Digest.Sha256.length_digest]

theorem uniqueKey_congr {p q : SearchQuery} (h : p.canonicalText = q.canonicalText) :
    p.uniqueKey = q.uniqueKey := by
  rw [uniqueKey, uniqueKey, h]

/-- Equal keys are equal digests. -/
theorem digest_eq_of_uniqueKey_eq {p q : SearchQuery} (h : p.uniqueKey = q.uniqueKey) :
    Digest.Sha256.digest (Utf8.encodeChars p.canonicalText)
      = Digest.Sha256.digest (Utf8.encodeChars q.canonicalText) := by
  have chars := congrArg (fun key => Hex.decode? key.toList) h
  simp only [uniqueKey, Hex.encode, String.toList_ofList, Hex.decode?_encodeChars] at chars
  exact Option.some.inj chars

end SearchQuery

end TorznabGateway
