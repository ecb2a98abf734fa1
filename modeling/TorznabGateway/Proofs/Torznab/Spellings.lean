import TorznabGateway.Proofs.Search.CacheKey
import TorznabGateway.Proofs.Torznab.Queries

/-!
# One search, many requests

A query can be asked for in many ways: with numerals in front of which stand plus signs and zeros,
with blanks around texts, with categories in any order. One request says everything plainly, and is
understood as the query that it was written for. Requests that ask for the same search, however each
of them puts it, get one key, so the second of them can be answered with what the first was given.

## Main definitions

* `TorznabRequest.ofQuery`: the plain request for a query.
* `TorznabRequest.SameAsked`: requests that ask for the same search, in terms of what was written.

## Main statements

* `TorznabRequest.toQuery_ofQuery`: a query is made again from its plain request.
* `TorznabRequest.uniqueKey_eq_of_sameAsked`: requests that ask for the same search share a key.
-/
namespace TorznabGateway.TorznabRequest

open Text

variable {bound : Nat} {value v w : Option String} {r s : TorznabRequest} {p q : SearchQuery}

/-! ## The plain request for a query -/

/-- The request in which everything that a query asks for is written out: numbers as decimal
numerals, categories with commas between, and texts as they are. -/
def ofQuery (q : SearchQuery) : TorznabRequest where
  t := some q.function.name
  q := some q.text
  cat := some (joinTexts "," (q.categories.map Decimal.render))
  limit := q.limit.map Decimal.render
  offset := some (Decimal.render q.offset)
  season := q.season
  ep := q.episode
  imdbid := q.imdbId
  tmdbid := q.tmdbId.map Decimal.render
  tvdbid := q.tvdbId.map Decimal.render
  minsize := q.minSize.map Decimal.render
  maxsize := q.maxSize.map Decimal.render
  maxage := q.maxAgeDays.map Decimal.render
  pages := q.maxPages.map Decimal.render

theorem said_none : said none = "" := by decide

theorem said_some (s : String) : said (some s) = trim s := rfl

theorem exists_word_name (f : SearchFunction) :
    ∃ w ∈ f.words, eqIgnoreAsciiCase (said (some f.name)) w := by
  cases f <;> decide

theorem fits_render {n : Nat} (h : n < bound) : Fits bound (Decimal.render n) n := by
  refine ⟨?_, h⟩
  rw [Decimal.render, String.toList_ofList]
  exact Decimal.denotes_digits n

/-- A number that a parameter gives is given by its numeral too. -/
theorem Gives.render {o : Option Nat} (given : Gives bound value o) :
    Gives bound (o.map Decimal.render) o := by
  cases o with
  | none => exact said_none
  | some n =>
    rw [Option.map_some, Gives, said_some, Decimal.trim_render]
    exact fits_render given.2

/-- A text that a parameter says is said by itself too. -/
theorem GivesText.self {o : Option String} (given : GivesText value o) : GivesText o o := by
  cases o with
  | none => exact said_none
  | some s =>
    obtain ⟨rfl, some_text⟩ := given
    exact ⟨by rw [said_some, said, trim_trim], some_text⟩

/-- A title number is given by its written form too. -/
theorem GivesTitle.self {o : Option String} (given : GivesTitle value o) : GivesTitle o o := by
  cases o with
  | none => exact said_none
  | some id =>
    obtain ⟨-, n, -, ⟨-, small⟩, rfl⟩ := given
    have plain : ∀ c ∈ (imdbText n).toList, isWhiteSpace c = false := by
      rw [imdbText, String.toList_ofList]
      simp only [List.forall_mem_cons]
      exact ⟨by decide, by decide, fun c hc =>
        isWhiteSpace_of_isDigit (Decimal.isDigit_of_mem_padded hc)⟩
    refine ⟨.ofList (Decimal.padded 7 n), n, .inr ?_, ⟨?_, small⟩, rfl⟩
    · rw [said_some, trim, trimChars_of_forall plain, String.ofList_toList, ← String.toList_inj]
      simp [imdbText]
    · rw [String.toList_ofList]
      exact Decimal.denotes_of_readDigits? (Decimal.padded_ne_nil 7 n)
        (Decimal.readDigits?_padded 7 n)

theorem said_joinTexts_render (cs : List Nat) :
    said (some (joinTexts "," (cs.map Decimal.render)))
      = joinTexts "," (cs.map Decimal.render) := by
  rw [said_some, trim, trimChars_of_forall, String.ofList_toList]
  intro c hc
  rw [joinTexts, String.toList_ofList] at hc
  rcases mem_joinWith hc with comma | ⟨numeral, hn, hc⟩
  · rw [List.mem_singleton.1 comma]
    decide
  · obtain ⟨_, hx, rfl⟩ := List.mem_map.1 hn
    obtain ⟨n, -, rfl⟩ := List.mem_map.1 hx
    rw [Decimal.render, String.toList_ofList] at hc
    exact isWhiteSpace_of_isDigit (Decimal.isDigit_of_mem hc)

theorem commaItems_joinTexts_render (cs : List Nat) :
    commaItems (joinTexts "," (cs.map Decimal.render)) = cs.map Decimal.render := by
  refine commaItems_joinTexts fun x hx => ?_
  obtain ⟨n, -, rfl⟩ := List.mem_map.1 hx
  refine ⟨fun comma => ?_, Decimal.trim_render n, fun empty => ?_⟩
  · rw [Decimal.render, String.toList_ofList] at comma
    exact absurd (Decimal.isDigit_of_mem comma) (by decide)
  · exact Decimal.digits_ne_nil n (by simpa [Decimal.render] using empty)

/-- Categories that were read from a list are given by their numerals too. -/
theorem forall₂_fits_render {items : List String} {cs : List Nat}
    (given : List.Forall₂ (Fits bound) items cs) :
    List.Forall₂ (Fits bound) (cs.map Decimal.render) cs := by
  induction given with
  | nil => exact .nil
  | cons first _ rest => exact .cons (fits_render first.2) rest

/-- A query that some request asks for is asked for by its plain request. -/
theorem Asks.ofQuery (asks : r.Asks q) : (ofQuery q).Asks q where
  function := exists_word_name q.function
  text := rfl
  categories := by
    rw [TorznabRequest.ofQuery, said_joinTexts_render, commaItems_joinTexts_render]
    exact forall₂_fits_render asks.categories
  limit := asks.limit.render
  offset := by
    obtain ⟨o, given, offset⟩ := asks.offset
    have small : q.offset < 2 ^ 32 := by
      rw [offset]
      cases o with
      | none => decide
      | some n => exact given.2
    refine ⟨some q.offset, ?_, rfl⟩
    rw [TorznabRequest.ofQuery, Gives, said_some, Decimal.trim_render]
    exact fits_render small
  maxPages := ⟨asks.maxPages.1.render, asks.maxPages.2⟩
  season := asks.season.self
  episode := asks.episode.self
  imdbId := asks.imdbId.self
  tmdbId := asks.tmdbId.render
  tvdbId := asks.tvdbId.render
  minSize := asks.minSize.render
  maxSize := asks.maxSize.render
  maxAgeDays := asks.maxAgeDays.render

/-- A query that was made is made again from its plain request. -/
theorem toQuery_ofQuery (made : r.toQuery = .ok q) : (ofQuery q).toQuery = .ok q :=
  toQuery_eq_ok_iff.2 (toQuery_eq_ok_iff.1 made).ofQuery

/-- The largest limit and title number, and texts with blanks around them. -/
theorem toQuery_ofQuery_extremes :
    let r : TorznabRequest :=
      { t := some " TV-Search ", q := some " The Show ", cat := some "5040,, +05000 "
        limit := some "4294967295", season := some " 02\t", ep := some "Finale 1"
        imdbid := some "tt+18446744073709551615", pages := some "+2", apikey := some "k" }
    let q : SearchQuery :=
      { function := .tvSearch, text := " The Show ", categories := [5040, 5000]
        limit := some 4294967295, season := some "02", episode := some "Finale 1"
        imdbId := some "tt18446744073709551615", maxPages := some 2 }
    r.toQuery = .ok q
      ∧ ofQuery q =
        { t := some "tvsearch", q := some " The Show ", cat := some "5040,5000"
          limit := some "4294967295", offset := some "0", season := some "02"
          ep := some "Finale 1", imdbid := some "tt18446744073709551615", pages := some "2" }
      ∧ (ofQuery q).toQuery = .ok q := by
  intro r q
  have made : r.toQuery = .ok q := by decide +kernel
  exact ⟨made, by decide +kernel, toQuery_ofQuery made⟩

/-! ## Requests that ask for the same -/

/-- Whether a number is among those of a comma list. -/
def Lists (value : Option String) (n : Nat) : Prop :=
  ∃ item ∈ commaItems (said value), Fits (2 ^ 32) item n

/-- Whether a parameter names a title by its number, with or without `tt`. -/
def NamesTitle (value : Option String) (n : Nat) : Prop :=
  ∃ s, (said value = s ∨ said value = "tt" ++ s) ∧ Fits (2 ^ 64) s n

/-- Whether two parameters are both blank, or are numerals of one number below a bound. -/
def GiveSame (bound : Nat) (v w : Option String) : Prop :=
  ∃ o, Gives bound v o ∧ Gives bound w o

/-- Whether two requests ask for the same search, however each of them puts it. -/
structure SameAsked (r s : TorznabRequest) : Prop where
  function : ∃ f : SearchFunction, (∃ w ∈ f.words, eqIgnoreAsciiCase (said r.t) w)
    ∧ ∃ w ∈ f.words, eqIgnoreAsciiCase (said s.t) w
  text : lowercase (said r.q) = lowercase (said s.q)
  categories : ∀ n, Lists r.cat n ↔ Lists s.cat n
  imdbid : (said r.imdbid = "" ∧ said s.imdbid = "")
    ∨ ∃ n, NamesTitle r.imdbid n ∧ NamesTitle s.imdbid n
  season : said r.season = said s.season
  ep : said r.ep = said s.ep
  limit : ∃ m n, Gives (2 ^ 32) r.limit m ∧ Gives (2 ^ 32) s.limit n
    ∧ min (m.getD 100) 1000 = min (n.getD 100) 1000
  offset : GiveSame (2 ^ 32) r.offset s.offset
  pages : GiveSame (2 ^ 32) r.pages s.pages
  maxage : GiveSame (2 ^ 32) r.maxage s.maxage
  tmdbid : GiveSame (2 ^ 64) r.tmdbid s.tmdbid
  tvdbid : GiveSame (2 ^ 64) r.tvdbid s.tvdbid
  minsize : GiveSame (2 ^ 64) r.minsize s.minsize
  maxsize : GiveSame (2 ^ 64) r.maxsize s.maxsize

/-! ### A parameter gives one thing -/

/-- One word does not name two functions. -/
theorem function_unique {s : String} {f g : SearchFunction}
    (hf : ∃ w ∈ f.words, eqIgnoreAsciiCase s w) (hg : ∃ w ∈ g.words, eqIgnoreAsciiCase s w) :
    f = g := by
  rw [← SearchFunction.parse?_eq_some_iff] at hf hg
  exact Option.some.inj (hf.symm.trans hg)

theorem Fits.unique {s : String} {m n : Nat} (hm : Fits bound s m) (hn : Fits bound s n) : m = n :=
  hm.1.unique hn.1

theorem Gives.unique {o p : Option Nat} (ho : Gives bound value o) (hp : Gives bound value p) :
    o = p := by
  have blank {n : Nat} (no_text : said value = "") (number : Fits bound (said value) n) : False :=
    not_fits_empty (no_text ▸ number)
  cases o with
  | none =>
    cases p with
    | none => rfl
    | some n => exact (blank ho hp).elim
  | some m =>
    cases p with
    | none => exact (blank hp ho).elim
    | some n => rw [Fits.unique ho hp]

theorem GivesTitle.unique {o p : Option String} (ho : GivesTitle value o)
    (hp : GivesTitle value p) : o = p := by
  rw [← readImdbId_eq_ok_iff] at ho hp
  exact Except.ok.inj (ho.symm.trans hp)

/-! ### Two parameters that give the same -/

theorem GiveSame.eq {o p : Option Nat} (same : GiveSame bound v w) (ho : Gives bound v o)
    (hp : Gives bound w p) : o = p := by
  obtain ⟨both, hv, hw⟩ := same
  rw [ho.unique hv, hp.unique hw]

theorem GivesText.eq {o p : Option String} (same : said v = said w) (ho : GivesText v o)
    (hp : GivesText w p) : o = p := by
  cases o <;> cases p <;> simp_all [GivesText]

theorem GivesTitle.eq_imdbText {o : Option String} {n : Nat} (given : GivesTitle value o)
    (named : NamesTitle value n) : o = some (imdbText n) := by
  obtain ⟨s, written, fits⟩ := named
  exact given.unique ⟨s, n, written, fits, rfl⟩

theorem GivesTitle.eq {o p : Option String}
    (same : (said v = "" ∧ said w = "") ∨ ∃ n, NamesTitle v n ∧ NamesTitle w n)
    (ho : GivesTitle v o) (hp : GivesTitle w p) : o = p := by
  rcases same with ⟨hv, hw⟩ | ⟨n, hv, hw⟩
  · rw [ho.unique (p := none) hv, hp.unique (p := none) hw]
  · rw [ho.eq_imdbText hv, hp.eq_imdbText hw]

theorem lists_iff {cs : List Nat}
    (given : List.Forall₂ (Fits (2 ^ 32)) (commaItems (said value)) cs) {n : Nat} :
    Lists value n ↔ n ∈ cs := by
  rw [Lists]
  generalize commaItems (said value) = items at given
  induction given with
  | nil => simp
  | @cons item c items cs first _ rest =>
    have here : Fits (2 ^ 32) item n ↔ n = c :=
      ⟨fun fits => fits.unique first, fun same => same ▸ first⟩
    rw [List.exists_mem_cons_iff, rest, here, List.mem_cons]

/-- Requests that ask for the same get queries for one search. -/
theorem SameAsked.sameSearch (same : SameAsked r s) (hp : r.Asks p) (hq : s.Asks q) :
    p.SameSearch q where
  function := by
    obtain ⟨f, hr, hs⟩ := same.function
    rw [function_unique hp.function hr, function_unique hq.function hs]
  text := by
    rw [hp.text, hq.text]
    exact same.text
  categories n := by rw [← lists_iff hp.categories, ← lists_iff hq.categories, same.categories]
  imdbId := hp.imdbId.eq same.imdbid hq.imdbId
  tmdbId := same.tmdbid.eq hp.tmdbId hq.tmdbId
  tvdbId := same.tvdbid.eq hp.tvdbId hq.tvdbId
  season := by rw [hp.season.eq same.season hq.season]
  episode := by rw [hp.episode.eq same.ep hq.episode]
  limit := by
    obtain ⟨m, n, hr, hs, clamped⟩ := same.limit
    rw [SearchQuery.effectiveLimit, SearchQuery.effectiveLimit, hp.limit.unique hr,
      hq.limit.unique hs]
    exact clamped
  offset := by
    obtain ⟨m, hr, offset_p⟩ := hp.offset
    obtain ⟨n, hs, offset_q⟩ := hq.offset
    rw [offset_p, offset_q, same.offset.eq hr hs]
  maxPages := same.pages.eq hp.maxPages.1 hq.maxPages.1
  minSize := same.minsize.eq hp.minSize hq.minSize
  maxSize := same.maxsize.eq hp.maxSize hq.maxSize
  maxAgeDays := same.maxage.eq hp.maxAgeDays hq.maxAgeDays

/-- Requests that ask for the same search share a key. Neither the caller's key nor the format has a
part in the query, nor so in its key. -/
theorem uniqueKey_eq_of_sameAsked (hp : r.toQuery = .ok p) (hq : s.toQuery = .ok q)
    (same : SameAsked r s) :
    p.uniqueKey = q.uniqueKey
      ∧ ∀ apikey format, ({ r with apikey, format } : TorznabRequest).toQuery = .ok p := by
  have one_search := same.sameSearch (toQuery_eq_ok_iff.1 hp) (toQuery_eq_ok_iff.1 hq)
  exact ⟨SearchQuery.uniqueKey_congr one_search.canonicalText_eq, fun _ _ => hp⟩

/-- Two requests that differ in every way in which requests for one search can. -/
theorem uniqueKey_eq_of_sameAsked_spelled :
    let r : TorznabRequest :=
      { t := some " TV-Search", q := some " The SHOW ", cat := some "5040, +5000,,05040"
        imdbid := some "tt0133093", season := some "2", ep := some " ", limit := some "5000"
        offset := some "+5", tmdbid := some "", apikey := some "k", format := some "json" }
    let s : TorznabRequest :=
      { t := some "tvsearch", q := some "the show", cat := some "5000,5040"
        imdbid := some "133093", season := some " 2 ", limit := some "1000", offset := some "05"
        minsize := some "\t", apikey := some "l" }
    ∃ p q, r.toQuery = .ok p ∧ s.toQuery = .ok q ∧ SameAsked r s ∧ p.uniqueKey = q.uniqueKey := by
  intro r s
  let p : SearchQuery :=
    { function := .tvSearch, text := " The SHOW ", categories := [5040, 5000, 5040]
      imdbId := some "tt0133093", season := some "2", limit := some 5000, offset := 5 }
  let q : SearchQuery :=
    { function := .tvSearch, text := "the show", categories := [5000, 5040]
      imdbId := some "tt0133093", season := some "2", limit := some 1000, offset := 5 }
  have hp : r.toQuery = .ok p := by decide +kernel
  have hq : s.toQuery = .ok q := by decide +kernel
  have asks_p := toQuery_eq_ok_iff.1 hp
  have asks_q := toQuery_eq_ok_iff.1 hq
  have title (s : String) (written : readNumber "imdbid" Decimal.max64 s = .ok 133093) :
      Fits (2 ^ 64) s 133093 := readNumber_eq_ok_iff.1 written
  have offset (v : Option String)
      (written : readOptional "offset" Decimal.max32 v = .ok (some 5)) :
      Gives (2 ^ 32) v (some 5) := readOptional_eq_ok_iff.1 written
  have same : SameAsked r s :=
    { function := ⟨.tvSearch, asks_p.function, asks_q.function⟩
      text := by decide +kernel
      categories n := by
        rw [lists_iff asks_p.categories, lists_iff asks_q.categories]
        grind
      imdbid := .inr ⟨133093, ⟨"0133093", .inr (by decide), title _ (by decide +kernel)⟩,
        ⟨"133093", .inl (by decide), title _ (by decide +kernel)⟩⟩
      season := by decide
      ep := by decide
      limit := ⟨_, _, asks_p.limit, asks_q.limit, by decide⟩
      offset := ⟨_, offset _ (by decide), offset _ (by decide)⟩
      pages := ⟨_, asks_p.maxPages.1, asks_q.maxPages.1⟩
      maxage := ⟨_, asks_p.maxAgeDays, asks_q.maxAgeDays⟩
      tmdbid := ⟨_, asks_p.tmdbId, asks_q.tmdbId⟩
      tvdbid := ⟨_, asks_p.tvdbId, asks_q.tvdbId⟩
      minsize := ⟨_, asks_p.minSize, asks_q.minSize⟩
      maxsize := ⟨_, asks_p.maxSize, asks_q.maxSize⟩ }
  exact ⟨p, q, hp, hq, same, (uniqueKey_eq_of_sameAsked hp hq same).1⟩

end TorznabGateway.TorznabRequest
