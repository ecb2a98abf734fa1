import TorznabGateway.Proofs.Outcome
import TorznabGateway.Proofs.Text.LetterCase
import TorznabGateway.Proofs.Text.Written
import TorznabGateway.Torznab.Request

/-!
# What a query says

A request makes a query exactly if its function is one of nine words and all its numbers are
numerals that fit their type, the number of pages not being zero. The query then says what the
parameters say, each number with the value that was written; nothing is left out and nothing wraps
around. Any other request is answered with one and the same kind of error.

## Main definitions

* `TorznabRequest.said`: what a parameter says, without white space around it.
* `TorznabRequest.Fits`: a numeral for a number below a bound.
* `TorznabRequest.Acceptable`: which requests make a query, in terms of what was written.
* `TorznabRequest.Asks`: which query a request asks for.

## Main statements

* `SearchFunction.parse?_eq_some_iff`: the words for each function.
* `TorznabRequest.toQuery_eq_ok_iff`: a request makes the query that it asks for.
* `TorznabRequest.imdbId_of_toQuery`: title numbers have one written form in queries.
* `TorznabRequest.toQuery_exact`: which requests make a query, which one, and what others get.
-/
namespace TorznabGateway

open Text

/-- The words for a function in requests, letter case aside. -/
def SearchFunction.words : SearchFunction → List String
  | .search => ["search"]
  | .tvSearch => ["tvsearch", "tv-search"]
  | .movie => ["movie", "movie-search"]
  | .music => ["music", "music-search"]
  | .book => ["book", "book-search"]

theorem SearchFunction.parse?_eq_some_iff {s : String} {f : SearchFunction} :
    parse? s = some f ↔ ∃ w ∈ f.words, eqIgnoreAsciiCase s w := by
  have lower (g : SearchFunction) : ∀ w ∈ g.words, asciiLower w = w := by cases g <;> decide
  have listed : (∃ w ∈ f.words, eqIgnoreAsciiCase s w) ↔ asciiLower s ∈ f.words := by
    simp only [eqIgnoreAsciiCase_iff_asciiLower]
    grind
  have word (t : String) (g : SearchFunction) :
      (t == g.name || t == g.capsElement) = decide (t ∈ g.words) := by
    rw [Bool.eq_iff_iff]
    cases g <;> simp [name, capsElement, words]
  rw [listed, parse?]
  generalize asciiLower s = t
  simp only [word]
  constructor
  · intro found
    simpa using List.find?_some found
  · cases f <;> simp only [words, List.mem_cons, List.not_mem_nil, or_false]
    all_goals rintro h
    all_goals rcases h with rfl | rfl
    all_goals decide

namespace TorznabRequest

/-! ## One parameter -/

/-- What a parameter says, without the white space around it; nothing if it is absent. -/
def said (value : Option String) : String :=
  trim (value.getD "")

/-- Whether a text is a numeral for a certain number below a bound. -/
def Fits (bound : Nat) (s : String) (n : Nat) : Prop :=
  Decimal.Denotes s.toList n ∧ n < bound

/-- Whether a parameter is a numeral for a number below a bound, or blank and gives no number. -/
def Gives (bound : Nat) (value : Option String) : Option Nat → Prop
  | none => said value = ""
  | some n => Fits bound (said value) n

/-- Whether a parameter says a text, or is blank and gives none. -/
def GivesText (value : Option String) : Option String → Prop
  | none => said value = ""
  | some s => said value = s ∧ s ≠ ""

/-- Whether a parameter is a title number, with or without `tt`, or blank and gives none. -/
def GivesTitle (value : Option String) : Option String → Prop
  | none => said value = ""
  | some id =>
    ∃ s n, (said value = s ∨ said value = "tt" ++ s) ∧ Fits (2 ^ 64) s n ∧ id = imdbText n

variable {parameter : String} {limit : Nat} {value : Option String}

theorem bind_nonBlank? (value : Option String) :
    value.bind nonBlank? = if said value = "" then none else some (said value) := by
  have blank : trim "" = "" := by decide
  cases value with
  | none => simp [said, blank]
  | some s => by_cases h : trim s = "" <;> simp [said, nonBlank?, h]

theorem bind_nonBlank?_eq_iff {o : Option String} :
    value.bind nonBlank? = o ↔ GivesText value o := by
  rw [bind_nonBlank?]
  cases o <;> grind [GivesText]

theorem not_fits_empty {bound n : Nat} : ¬Fits bound "" n := by
  rintro ⟨⟨ds, rfl | h, some_digit, -⟩, -⟩
  · exact some_digit rfl
  · cases h

theorem readNumber_eq_ok_iff {s : String} {n : Nat} :
    readNumber parameter limit s = .ok n ↔ Fits (limit + 1) s n := by
  rw [Fits, Nat.lt_succ_iff, ← Decimal.readUpTo?_eq_some_iff, readNumber]
  cases Decimal.readUpTo? limit s.toList <;> simp

theorem readOptional_eq_ok_iff {o : Option Nat} :
    readOptional parameter limit value = .ok o ↔ Gives (limit + 1) value o := by
  unfold readOptional
  rw [bind_nonBlank?]
  by_cases blank : said value = ""
  · cases o <;> simp [Gives, blank, not_fits_empty]
  · rw [if_neg blank]
    cases o with
    | none => simp [map_eq_ok_iff, Gives, blank]
    | some n => simp [map_eq_ok_iff, Gives, readNumber_eq_ok_iff]

/-- The numbers of a list are those of its items, in order. -/
theorem readCategories_eq_ok_iff {cs : List Nat} :
    readCategories value = .ok cs
      ↔ List.Forall₂ (Fits (2 ^ 32)) (commaItems (said value)) cs := by
  unfold readCategories
  rw [bind_nonBlank?]
  by_cases blank : said value = ""
  · have nothing : commaItems "" = [] := by decide
    rw [if_pos blank, blank, nothing, List.forall₂_nil_left_iff, Except.ok.injEq, eq_comm]
  · have number : (fun s n => readNumber "cat" Decimal.max32 s = .ok n) = Fits (2 ^ 32) := by
      funext s n
      rw [readNumber_eq_ok_iff]
      rfl
    rw [if_neg blank, ← commaParts_eq_commaItems, ← number]
    exact mapM_eq_ok_iff_forall₂

theorem imdbDigits_append (s : String) : imdbDigits ("tt" ++ s) = s := by
  simp [imdbDigits]

/-- A numeral does not begin with `tt`. -/
theorem imdbDigits_of_fits {bound n : Nat} {s : String} (h : Fits bound s n) :
    imdbDigits s = s := by
  obtain ⟨⟨ds, written, -, digits, -⟩, -⟩ := h
  unfold imdbDigits
  split
  · next rest marked =>
    rw [marked] at written
    rcases written with rfl | other
    · exact absurd (digits 't' List.mem_cons_self) (by decide)
    · simp at other
  · rfl

theorem fits_imdbDigits_iff {bound n : Nat} {v : String} :
    Fits bound (imdbDigits v) n ↔ ∃ s, (v = s ∨ v = "tt" ++ s) ∧ Fits bound s n := by
  constructor
  · intro h
    refine ⟨imdbDigits v, ?_, h⟩
    unfold imdbDigits
    split
    · next rest marked => exact .inr (String.toList_inj.1 (by simp [marked]))
    · exact .inl rfl
  · rintro ⟨s, rfl | rfl, h⟩
    · rwa [imdbDigits_of_fits h]
    · rwa [imdbDigits_append]

theorem givesTitle_some_iff {id : String} :
    GivesTitle value (some id)
      ↔ ∃ n, Fits (2 ^ 64) (imdbDigits (said value)) n ∧ imdbText n = id := by
  simp only [GivesTitle, fits_imdbDigits_iff]
  grind

theorem readImdbId_eq_ok_iff {o : Option String} :
    readImdbId value = .ok o ↔ GivesTitle value o := by
  unfold readImdbId
  rw [bind_nonBlank?]
  by_cases blank : said value = ""
  · have nothing : imdbDigits "" = "" := by decide
    cases o with
    | none => simp [GivesTitle, blank]
    | some id => simp [givesTitle_some_iff, blank, nothing, not_fits_empty]
  · rw [if_neg blank]
    cases o with
    | none => simp [map_eq_ok_iff, GivesTitle, blank]
    | some id =>
      have bound : Decimal.max64 + 1 = 2 ^ 64 := by decide
      simp [map_eq_ok_iff, givesTitle_some_iff, readNumber_eq_ok_iff, bound]

/-- The written form of a title number is `tt` and its digits, with zeros in front if they are fewer
than seven. -/
theorem toList_imdbText (n : Nat) :
    ∃ ds, (imdbText n).toList = 't' :: 't' :: ds ∧ (∀ d ∈ ds, d.isDigit)
      ∧ Decimal.decimalValue ds = n ∧ 7 ≤ ds.length ∧ (7 < ds.length → ds.head? ≠ some '0') := by
  have read := Decimal.readDigits?_eq_some_iff.1 (Decimal.readDigits?_padded 7 n)
  rw [Nat.zero_mul, Nat.zero_add] at read
  refine ⟨Decimal.padded 7 n, by simp [imdbText], read.1, read.2, ?_, fun long => ?_⟩
  · simp only [Decimal.padded, List.length_append, List.length_replicate]
    omega
  · have wide : 7 < (Decimal.digits n).length := by
      simp only [Decimal.padded, List.length_append, List.length_replicate] at long
      omega
    have unpadded : Decimal.padded 7 n = Decimal.digits n := by
      simp [Decimal.padded, Nat.sub_eq_zero_of_le wide.le]
    have positive : 0 < n := by
      rcases Nat.eq_zero_or_pos n with rfl | positive
      · exact absurd wide (by decide +kernel)
      · exact positive
    rw [unpadded]
    exact Decimal.head?_digits positive

/-! ## All parameters -/

/-- Whether a request makes a query: its function is one of nine words, every number in it is a
numeral that fits its type, and the number of pages is not zero. -/
structure Acceptable (r : TorznabRequest) : Prop where
  function : ∃ w ∈ ["search", "tvsearch", "tv-search", "movie", "movie-search", "music",
    "music-search", "book", "book-search"], eqIgnoreAsciiCase (said r.t) w
  categories : ∀ item ∈ commaItems (said r.cat), ∃ n, Fits (2 ^ 32) item n
  limit : said r.limit ≠ "" → ∃ n, Fits (2 ^ 32) (said r.limit) n
  offset : said r.offset ≠ "" → ∃ n, Fits (2 ^ 32) (said r.offset) n
  pages : said r.pages ≠ "" → ∃ n, Fits (2 ^ 32) (said r.pages) n ∧ n ≠ 0
  maxage : said r.maxage ≠ "" → ∃ n, Fits (2 ^ 32) (said r.maxage) n
  tmdbid : said r.tmdbid ≠ "" → ∃ n, Fits (2 ^ 64) (said r.tmdbid) n
  tvdbid : said r.tvdbid ≠ "" → ∃ n, Fits (2 ^ 64) (said r.tvdbid) n
  minsize : said r.minsize ≠ "" → ∃ n, Fits (2 ^ 64) (said r.minsize) n
  maxsize : said r.maxsize ≠ "" → ∃ n, Fits (2 ^ 64) (said r.maxsize) n
  imdbid : said r.imdbid ≠ "" →
    ∃ s, (said r.imdbid = s ∨ said r.imdbid = "tt" ++ s) ∧ ∃ n, Fits (2 ^ 64) s n

/-- Whether a query says what the parameters of a request say. -/
structure Asks (r : TorznabRequest) (q : SearchQuery) : Prop where
  function : ∃ w ∈ q.function.words, eqIgnoreAsciiCase (said r.t) w
  text : q.text = r.q.getD ""
  categories : List.Forall₂ (Fits (2 ^ 32)) (commaItems (said r.cat)) q.categories
  limit : Gives (2 ^ 32) r.limit q.limit
  offset : ∃ o, Gives (2 ^ 32) r.offset o ∧ q.offset = o.getD 0
  maxPages : Gives (2 ^ 32) r.pages q.maxPages ∧ q.maxPages ≠ some 0
  season : GivesText r.season q.season
  episode : GivesText r.ep q.episode
  imdbId : GivesTitle r.imdbid q.imdbId
  tmdbId : Gives (2 ^ 64) r.tmdbid q.tmdbId
  tvdbId : Gives (2 ^ 64) r.tvdbid q.tvdbId
  minSize : Gives (2 ^ 64) r.minsize q.minSize
  maxSize : Gives (2 ^ 64) r.maxsize q.maxSize
  maxAgeDays : Gives (2 ^ 32) r.maxage q.maxAgeDays

variable {r : TorznabRequest} {q : SearchQuery}

theorem function?_eq_some_iff {name : String} :
    r.function? = some name ↔ said r.t = name ∧ name ≠ "" :=
  bind_nonBlank?_eq_iff

/-- Of the nine words none is blank, so a function is known if it is given by one of them. -/
theorem exists_function_iff {f : SearchFunction} :
    (∃ name, r.function? = some name ∧ SearchFunction.parse? name = some f)
      ↔ ∃ w ∈ f.words, eqIgnoreAsciiCase (said r.t) w := by
  have no_word : SearchFunction.parse? "" = none := by decide
  rw [← SearchFunction.parse?_eq_some_iff]
  simp only [function?_eq_some_iff]
  grind

/-- A request makes the query that it asks for. -/
theorem toQuery_eq_ok_iff : r.toQuery = .ok q ↔ r.Asks q := by
  have named_of_asks (asks : r.Asks q) := exists_function_iff.2 asks.function
  unfold toQuery
  cases named : r.function? with
  | none =>
    have unknown : ¬r.Asks q := fun asks => by simpa [named] using named_of_asks asks
    simp [unknown, bind, Except.bind]
  | some name =>
    cases known : SearchFunction.parse? name with
    | none =>
      have unknown : ¬r.Asks q := fun asks => by simpa [named, known] using named_of_asks asks
      simp [known, unknown, bind, Except.bind]
    | some f =>
      have max32 : Decimal.max32 + 1 = 2 ^ 32 := by decide
      have max64 : Decimal.max64 + 1 = 2 ^ 64 := by decide
      have function := exists_function_iff.1 ⟨name, named, known⟩
      simp only [known, bind_eq_ok_iff, guard_eq_ok_iff, Except.ok.injEq, exists_eq_left', pure,
        Except.pure, readCategories_eq_ok_iff, readOptional_eq_ok_iff, readImdbId_eq_ok_iff,
        max32, max64]
      constructor
      · rintro ⟨_, categories, _, limit, _, offset, _, pages, some_page, _, imdbId, _, tmdbId, _,
          tvdbId, _, minSize, _, maxSize, _, maxAgeDays, rfl⟩
        exact
          { function, text := rfl, categories, limit, offset := ⟨_, offset, rfl⟩
            maxPages := ⟨pages, some_page⟩, season := bind_nonBlank?_eq_iff.1 rfl
            episode := bind_nonBlank?_eq_iff.1 rfl, imdbId, tmdbId, tvdbId, minSize, maxSize
            maxAgeDays }
      · intro asks
        have same : f = q.function := by simpa [named, known] using named_of_asks asks
        obtain ⟨offset, offset_given, offset_said⟩ := asks.offset
        refine ⟨_, asks.categories, _, asks.limit, _, offset_given, _, asks.maxPages.1,
          asks.maxPages.2, _, asks.imdbId, _, asks.tmdbId, _, asks.tvdbId, _, asks.minSize, _,
          asks.maxSize, _, asks.maxAgeDays, ?_⟩
        rw [same, ← asks.text, bind_nonBlank?_eq_iff.2 asks.season,
          bind_nonBlank?_eq_iff.2 asks.episode, ← offset_said]

/-- Title numbers have one written form in queries. -/
theorem imdbId_of_toQuery (h : r.toQuery = .ok q) {id : String} (title : q.imdbId = some id) :
    ∃ n, id = imdbText n := by
  have given := (toQuery_eq_ok_iff.1 h).imdbId
  rw [title] at given
  obtain ⟨-, n, -, -, written⟩ := given
  exact ⟨n, written⟩

/-! ## Acceptance -/

/-- A parameter gives something with a property that a blank one has, if what it says fits and has
the property. -/
theorem exists_gives_and_iff {bound : Nat} {P : Option Nat → Prop} (blank_allowed : P none) :
    (∃ o, Gives bound value o ∧ P o)
      ↔ (said value ≠ "" → ∃ n, Fits bound (said value) n ∧ P (some n)) := by
  constructor
  · rintro ⟨_ | n, given, allowed⟩ some_text
    · exact absurd given some_text
    · exact ⟨n, given, allowed⟩
  · intro fits
    by_cases blank : said value = ""
    · exact ⟨none, blank, blank_allowed⟩
    · obtain ⟨n, given, allowed⟩ := fits blank
      exact ⟨some n, given, allowed⟩

theorem exists_gives_iff {bound : Nat} :
    (∃ o, Gives bound value o) ↔ (said value ≠ "" → ∃ n, Fits bound (said value) n) := by
  simpa using exists_gives_and_iff (P := fun _ => True) trivial

theorem exists_gives_ne_zero_iff {bound : Nat} :
    (∃ o, Gives bound value o ∧ o ≠ some 0)
      ↔ (said value ≠ "" → ∃ n, Fits bound (said value) n ∧ n ≠ 0) := by
  simpa using exists_gives_and_iff (P := (· ≠ some 0)) (by simp)

theorem exists_givesTitle_iff :
    (∃ o, GivesTitle value o) ↔ (said value ≠ "" →
      ∃ s, (said value = s ∨ said value = "tt" ++ s) ∧ ∃ n, Fits (2 ^ 64) s n) := by
  constructor
  · rintro ⟨_ | id, given⟩ some_text
    · exact absurd given some_text
    · obtain ⟨s, n, written, fits, -⟩ := given
      exact ⟨s, written, n, fits⟩
  · intro fits
    by_cases blank : said value = ""
    · exact ⟨none, blank⟩
    · obtain ⟨s, written, n, given⟩ := fits blank
      exact ⟨some (imdbText n), s, n, written, given, rfl⟩

theorem exists_forall₂_iff {α β : Type} {R : α → β → Prop} {xs : List α} :
    (∃ ys, List.Forall₂ R xs ys) ↔ ∀ x ∈ xs, ∃ y, R x y := by
  induction xs with
  | nil => simp
  | cons x xs ih =>
    rw [List.forall_mem_cons, ← ih]
    simp only [List.forall₂_cons_left_iff]
    grind

theorem exists_words_iff {s : String} :
    (∃ f : SearchFunction, ∃ w ∈ f.words, eqIgnoreAsciiCase s w)
      ↔ ∃ w ∈ ["search", "tvsearch", "tv-search", "movie", "movie-search", "music", "music-search",
          "book", "book-search"], eqIgnoreAsciiCase s w := by
  have listed : ["search", "tvsearch", "tv-search", "movie", "movie-search", "music",
      "music-search", "book", "book-search"]
        = SearchFunction.all.flatMap SearchFunction.words := rfl
  simp only [listed, List.mem_flatMap, SearchFunction.mem_all, true_and]
  grind

/-- The acceptable requests are those that ask for a query. -/
theorem exists_asks_iff : (∃ q, r.Asks q) ↔ r.Acceptable := by
  constructor
  · rintro ⟨q, asks⟩
    obtain ⟨o, offset, -⟩ := asks.offset
    exact
      { function := exists_words_iff.1 ⟨_, asks.function⟩
        categories := exists_forall₂_iff.1 ⟨_, asks.categories⟩
        limit := exists_gives_iff.1 ⟨_, asks.limit⟩
        offset := exists_gives_iff.1 ⟨o, offset⟩
        pages := exists_gives_ne_zero_iff.1 ⟨_, asks.maxPages⟩
        maxage := exists_gives_iff.1 ⟨_, asks.maxAgeDays⟩
        tmdbid := exists_gives_iff.1 ⟨_, asks.tmdbId⟩
        tvdbid := exists_gives_iff.1 ⟨_, asks.tvdbId⟩
        minsize := exists_gives_iff.1 ⟨_, asks.minSize⟩
        maxsize := exists_gives_iff.1 ⟨_, asks.maxSize⟩
        imdbid := exists_givesTitle_iff.1 ⟨_, asks.imdbId⟩ }
  · intro accepted
    obtain ⟨f, function⟩ := exists_words_iff.2 accepted.function
    obtain ⟨cs, categories⟩ := exists_forall₂_iff.2 accepted.categories
    obtain ⟨limit, limit_given⟩ := exists_gives_iff.2 accepted.limit
    obtain ⟨offset, offset_given⟩ := exists_gives_iff.2 accepted.offset
    obtain ⟨pages, pages_given⟩ := exists_gives_ne_zero_iff.2 accepted.pages
    obtain ⟨maxage, maxage_given⟩ := exists_gives_iff.2 accepted.maxage
    obtain ⟨tmdb, tmdb_given⟩ := exists_gives_iff.2 accepted.tmdbid
    obtain ⟨tvdb, tvdb_given⟩ := exists_gives_iff.2 accepted.tvdbid
    obtain ⟨minsize, minsize_given⟩ := exists_gives_iff.2 accepted.minsize
    obtain ⟨maxsize, maxsize_given⟩ := exists_gives_iff.2 accepted.maxsize
    obtain ⟨title, title_given⟩ := exists_givesTitle_iff.2 accepted.imdbid
    have season := bind_nonBlank?_eq_iff.1 (Eq.refl (r.season.bind nonBlank?))
    have episode := bind_nonBlank?_eq_iff.1 (Eq.refl (r.ep.bind nonBlank?))
    exact
      ⟨{ function := f, text := r.q.getD "", categories := cs, imdbId := title, tmdbId := tmdb
         tvdbId := tvdb, season := _, episode := _, limit, offset := offset.getD 0
         maxPages := pages, minSize := minsize, maxSize := maxsize, maxAgeDays := maxage },
       { function, text := rfl, categories, limit := limit_given
         offset := ⟨offset, offset_given, rfl⟩, maxPages := pages_given, season, episode
         imdbId := title_given, tmdbId := tmdb_given, tvdbId := tvdb_given
         minSize := minsize_given, maxSize := maxsize_given, maxAgeDays := maxage_given }⟩

/-- A request makes a query exactly if it is acceptable, and then the query that it asks for, in
which title numbers are written as `tt` and at least seven digits. Any other request is answered
with an incorrect parameter. -/
theorem toQuery_exact (r : TorznabRequest) :
    ((∃ q, r.toQuery = .ok q) ↔ r.Acceptable)
      ∧ (∀ q, r.toQuery = .ok q ↔ r.Asks q)
      ∧ (∀ n, ∃ ds, (imdbText n).toList = 't' :: 't' :: ds ∧ (∀ d ∈ ds, d.isDigit)
          ∧ Decimal.decimalValue ds = n ∧ 7 ≤ ds.length ∧ (7 < ds.length → ds.head? ≠ some '0'))
      ∧ (¬r.Acceptable → ∃ e, r.toQuery.mapError RequestFault.error = .error e
          ∧ e.code = 201 ∧ e.status = 400) := by
  have accepted : (∃ q, r.toQuery = .ok q) ↔ r.Acceptable := by
    simp only [toQuery_eq_ok_iff, exists_asks_iff]
  refine ⟨accepted, fun q => toQuery_eq_ok_iff, toList_imdbText, fun refused => ?_⟩
  cases made : r.toQuery with
  | ok q => exact absurd (accepted.1 ⟨q, made⟩) refused
  | error fault => exact ⟨fault.error, rfl, rfl, rfl⟩

/-- Numerals with signs and zeros in front, the largest number of its type, and one too large. -/
theorem toQuery_exact_extremes :
    let r : TorznabRequest :=
      { t := some " TV-Search ", cat := some " 5000,, +05040 ", limit := some "\t"
        pages := some "+2"
        imdbid := some "tt+133093", tmdbid := some "18446744073709551615" }
    let q : SearchQuery :=
      { function := .tvSearch, categories := [5000, 5040], maxPages := some 2
        imdbId := some "tt0133093", tmdbId := some 18446744073709551615 }
    let tooLarge : TorznabRequest := { t := some "search", limit := some "4294967296" }
    r.Asks q ∧ r.Acceptable ∧ ¬tooLarge.Acceptable
      ∧ ∃ e, tooLarge.toQuery.mapError RequestFault.error = .error e ∧ e.code = 201
          ∧ e.status = 400 := by
  intro r q tooLarge
  have made : r.toQuery = .ok q := by decide +kernel
  have refused : ¬tooLarge.Acceptable := by
    have fault : tooLarge.toQuery = .error (.notANumber "limit" "4294967296") := by decide
    rw [← (toQuery_exact tooLarge).1, fault]
    simp
  exact ⟨((toQuery_exact r).2.1 q).1 made, (toQuery_exact r).1.1 ⟨q, made⟩, refused,
    (toQuery_exact tooLarge).2.2.2 refused⟩

end TorznabRequest

end TorznabGateway
