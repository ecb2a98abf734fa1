import TorznabGateway.Jackett.Server
import TorznabGateway.Proofs.Search.CacheKey
import TorznabGateway.Proofs.Search.SentText
import TorznabGateway.Text.Utf8.RoundTrip

/-!
# What a search tells Jackett

An indexer behind Jackett offers parameters for each of its modes. Searches that differ in one of
them are sent to different addresses, as far as the text that is sent keeps them apart: seasons and
episodes that are sent as one number are not told apart, an episode without a season is not sent,
and the number `tvdbid` of a series is offered, but never sent.

## Main definitions

* `SearchQuery.AgreeBut`: queries that differ in one parameter at most.
* `Jackett.SentAlike`: seasons and episodes that the text does not keep apart.

## Main statements

* `Jackett.searchUrl_eq_iff_of_advertised`: which searches have one address.
* `Jackett.searchUrl_eq_iff_sentAlike`: so for the parameters that are sent.
* `Jackett.searchUrl_of_leading_zero`: two seasons with one address.
-/
namespace TorznabGateway

open Text Encoding

/-- Whether two queries agree in everything but the parameter of a name. -/
def SearchQuery.AgreeBut (parameter : String) (p q : SearchQuery) : Prop :=
  q = match parameter with
    | "q" => { p with text := q.text }
    | "season" => { p with season := q.season }
    | "ep" => { p with episode := q.episode }
    | "imdbid" => { p with imdbId := q.imdbId }
    | "tmdbid" => { p with tmdbId := q.tmdbId }
    | "tvdbid" => { p with tvdbId := q.tvdbId }
    | _ => p

theorem Encoding.Percent.encode_injective : Function.Injective encode := by
  intro s t same
  have bytes := congrArg (Utf8.decode? ∘ decode) same
  simpa [decode_encode, Utf8.decode?_encode] using bytes

theorem Text.Decimal.render_injective : Function.Injective render :=
  fun _ _ same => digits_injective (String.ofList_injective same)

namespace Jackett

open SearchQuery

variable {e : Endpoint} {p q : SearchQuery}

/-! ## Addresses -/

/-- A part that is left out if there is nothing to say tells what it was made of. -/
theorem elim_part_inj {α : Type} {mark : String} (named : mark ≠ "") {write : α → String}
    (inj : Function.Injective write) {x y : Option α} :
    (x.elim "" fun a => mark ++ write a) = (y.elim "" fun a => mark ++ write a) ↔ x = y := by
  have some_text (a : α) : mark ++ write a ≠ "" :=
    fun empty => named (String.append_eq_empty_iff.1 empty).1
  cases x with
  | none =>
    cases y with
    | none => simp
    | some b => simpa using (some_text b).symm
  | some a =>
    cases y with
    | none => simpa using some_text a
    | some b => simp only [Option.elim_some, String.append_right_inj, inj.eq_iff, Option.some.injEq]

theorem searchUrl_eq_iff_searchText (categories : p.categories = q.categories)
    (imdbId : p.imdbId = q.imdbId) (tmdbId : p.tmdbId = q.tmdbId) :
    e.searchUrl p = e.searchUrl q ↔ p.searchText = q.searchText := by
  simp only [Endpoint.searchUrl, categories, imdbId, tmdbId, String.append_left_inj,
    String.append_right_inj, Percent.encode_injective.eq_iff]

theorem searchUrl_eq_iff_imdbId (imdbId : Option String) :
    e.searchUrl p = e.searchUrl { p with imdbId } ↔ p.imdbId = imdbId := by
  have text : { p with imdbId }.searchText = p.searchText := rfl
  simp only [Endpoint.searchUrl, text, String.append_left_inj, String.append_right_inj]
  exact elim_part_inj (by decide) Percent.encode_injective

theorem searchUrl_eq_iff_tmdbId (tmdbId : Option Nat) :
    e.searchUrl p = e.searchUrl { p with tmdbId } ↔ p.tmdbId = tmdbId := by
  have text : { p with tmdbId }.searchText = p.searchText := rfl
  simp only [Endpoint.searchUrl, text, String.append_right_inj]
  exact elim_part_inj (by decide) Decimal.render_injective

/-! ## Parameters -/

/-- Whether two values of a parameter are sent in the same way: two seasons or two episodes as one
number, or two episodes not at all. -/
def SentAlike (parameter : String) (p q : SearchQuery) : Prop :=
  (parameter = "season"
    ∧ ∃ n, SeasonSentAs p.season p.episode n ∧ SeasonSentAs q.season q.episode n)
  ∨ (parameter = "ep" ∧ (p.season = none
    ∨ ∃ n, EpisodeSentAs p.season p.episode n ∧ EpisodeSentAs q.season q.episode n))

/-- The parameters that the usual modes have. -/
theorem parameter_of_standard {mode : SearchMode} (offered : mode ∈ Capabilities.standard.modes)
    {parameter : String} (advertised : parameter ∈ mode.parameters) :
    parameter ∈ ["q", "imdbid", "tmdbid", "tvdbid"]
      ∨ (mode.function = .tvSearch ∧ parameter ∈ ["season", "ep"]) := by
  revert parameter mode
  decide

/-- The text and the numbers of titles are sent as they are. -/
theorem searchUrl_ne_of_agreeBut {parameter : String} (sent : parameter ∈ ["q", "imdbid", "tmdbid"])
    (agree : p.AgreeBut parameter q) (differ : p.canonicalLines ≠ q.canonicalLines) :
    e.searchUrl p ≠ e.searchUrl q := by
  intro same
  simp only [List.mem_cons, List.not_mem_nil, or_false] at sent
  rcases sent with rfl | rfl | rfl
  case inl =>
    obtain ⟨text, rfl⟩ : ∃ text, q = { p with text } := ⟨_, agree⟩
    have texts := (searchUrl_eq_iff_searchText (p := p) (q := { p with text }) rfl rfl rfl).1 same
    refine searchText_ne_of_text (fun trimmed => differ ?_) texts
    simp [canonicalLines, trimmed, effectiveLimit]
  case inr.inl =>
    obtain ⟨imdbId, rfl⟩ : ∃ imdbId, q = { p with imdbId } := ⟨_, agree⟩
    have titles := (searchUrl_eq_iff_imdbId imdbId).1 same
    exact differ (by simp [canonicalLines, titles, effectiveLimit])
  case inr.inr =>
    obtain ⟨tmdbId, rfl⟩ : ∃ tmdbId, q = { p with tmdbId } := ⟨_, agree⟩
    have titles := (searchUrl_eq_iff_tmdbId tmdbId).1 same
    exact differ (by simp [canonicalLines, titles, effectiveLimit])

theorem searchUrl_eq_iff_of_season (series : p.function = .tvSearch) (agree : p.AgreeBut "season" q)
    (differ : p.canonicalLines ≠ q.canonicalLines) :
    e.searchUrl p = e.searchUrl q
      ↔ ∃ n, SeasonSentAs p.season p.episode n ∧ SeasonSentAs q.season q.episode n := by
  obtain ⟨season, rfl⟩ : ∃ season, q = { p with season } := ⟨_, agree⟩
  rw [searchUrl_eq_iff_searchText (p := p) (q := { p with season }) rfl rfl rfl]
  refine searchText_eq_iff_of_season series ?_
  exact fun same => differ (by simp [canonicalLines, same, effectiveLimit])

theorem searchUrl_eq_iff_of_episode (series : p.function = .tvSearch) (agree : p.AgreeBut "ep" q)
    (differ : p.canonicalLines ≠ q.canonicalLines) :
    e.searchUrl p = e.searchUrl q
      ↔ p.season = none
        ∨ ∃ n, EpisodeSentAs p.season p.episode n ∧ EpisodeSentAs q.season q.episode n := by
  obtain ⟨episode, rfl⟩ : ∃ episode, q = { p with episode } := ⟨_, agree⟩
  rw [searchUrl_eq_iff_searchText (p := p) (q := { p with episode }) rfl rfl rfl]
  refine searchText_eq_iff_of_episode series ?_
  exact fun same => differ (by simp [canonicalLines, same, effectiveLimit])

/-- The number `tvdbid` is not sent. -/
theorem searchUrl_eq_of_tvdbId (agree : p.AgreeBut "tvdbid" q) : e.searchUrl p = e.searchUrl q := by
  obtain ⟨tvdbId, rfl⟩ : ∃ tvdbId, q = { p with tvdbId } := ⟨_, agree⟩
  rfl

/-- Two searches that differ in one usual parameter of their mode, and not only in its spelling,
have one address exactly if their seasons or their episodes are sent alike, or the parameter is the
one that is not sent. -/
theorem searchUrl_eq_iff_of_advertised {mode : SearchMode}
    (offered : mode ∈ Capabilities.standard.modes) {parameter : String}
    (advertised : parameter ∈ mode.parameters) (function : p.function = mode.function)
    (agree : p.AgreeBut parameter q) (differ : p.canonicalLines ≠ q.canonicalLines) :
    e.searchUrl p = e.searchUrl q ↔ SentAlike parameter p q ∨ parameter = "tvdbid" := by
  rcases parameter_of_standard offered advertised with usual | ⟨series, in_marker⟩
  case inl =>
    by_cases tvdb : parameter = "tvdbid"
    · subst tvdb
      exact iff_of_true (searchUrl_eq_of_tvdbId agree) (.inr rfl)
    · have sent : parameter ∈ ["q", "imdbid", "tmdbid"] := by simpa [tvdb] using usual
      have told_apart : ¬SentAlike parameter p q := by
        rintro (⟨rfl, -⟩ | ⟨rfl, -⟩) <;> exact absurd sent (by decide)
      exact iff_of_false (searchUrl_ne_of_agreeBut sent agree differ) (not_or.2 ⟨told_apart, tvdb⟩)
  case inr =>
    simp only [List.mem_cons, List.not_mem_nil, or_false] at in_marker
    rcases in_marker with rfl | rfl
    · simpa [SentAlike] using searchUrl_eq_iff_of_season (function.trans series) agree differ
    · simpa [SentAlike] using searchUrl_eq_iff_of_episode (function.trans series) agree differ

/-- Two searches that differ in one parameter that the indexer offers for their mode, and not only
in its spelling, have one address exactly if their seasons or their episodes are sent alike. -/
theorem searchUrl_eq_iff_sentAlike (s : Source) (read : Url.Reader) (network : Network)
    {mode : SearchMode} (offered : mode ∈ (s.toIndexer read network).capabilities.modes)
    {parameter : String} (advertised : parameter ∈ mode.parameters)
    (not_tvdb : parameter ≠ "tvdbid") (function : p.function = mode.function)
    (agree : p.AgreeBut parameter q) (differ : p.canonicalLines ≠ q.canonicalLines) :
    s.endpoint.searchUrl p = s.endpoint.searchUrl q ↔ SentAlike parameter p q := by
  rw [searchUrl_eq_iff_of_advertised offered advertised function agree differ,
    or_iff_left not_tvdb]

/-- A season as its number and as such numbers are sent, and an episode that is there or not. -/
theorem searchUrl_eq_iff_sentAlike_series :
    let s : Source := ⟨"tpb", ⟨"http://jackett:9117", "K", "tpb"⟩⟩
    let p : SearchQuery := { function := .tvSearch, text := "x", season := some "2" }
    let sent : SearchQuery := { p with season := some "S02" }
    let single : SearchQuery := { p with episode := some "5" }
    p.canonicalLines ≠ sent.canonicalLines ∧ p.canonicalLines ≠ single.canonicalLines
      ∧ s.endpoint.searchUrl p = s.endpoint.searchUrl sent
      ∧ s.endpoint.searchUrl p ≠ s.endpoint.searchUrl single := by
  intro s p sent single
  have seasons : p.canonicalLines ≠ sent.canonicalLines := by decide +kernel
  have episodes : p.canonicalLines ≠ single.canonicalLines := by decide +kernel
  let mode : SearchMode := ⟨.tvSearch, true, ["q", "season", "ep", "tvdbid", "imdbid"]⟩
  have offered : mode ∈ Capabilities.standard.modes := by decide
  let read : Url.Reader := fun _ => none
  let network : Network := fun _ _ => .error .timedOut
  have by_season := searchUrl_eq_iff_sentAlike s read network offered
    (show "season" ∈ mode.parameters by decide) (by decide) (show p.function = _ from rfl)
    (show p.AgreeBut "season" sent from rfl) seasons
  have by_episode := searchUrl_eq_iff_sentAlike s read network offered
    (show "ep" ∈ mode.parameters by decide) (by decide) (show p.function = _ from rfl)
    (show p.AgreeBut "ep" single from rfl) episodes
  refine ⟨seasons, episodes, by_season.2 (.inl ⟨rfl, 2, ?_, ?_⟩), fun same => ?_⟩
  · exact ⟨"2", rfl, .inl ⟨by decide, by simp [p]⟩⟩
  · exact ⟨"S02", rfl, .inr ⟨by decide +kernel, rfl⟩⟩
  · simpa [SentAlike, EpisodeSentAs, p] using by_episode.1 same

/-- Searches for one season, written with a zero in front and without, have one address. -/
theorem searchUrl_of_leading_zero :
    ¬∀ (s : Source) (read : Url.Reader) (network : Network),
      ∀ mode ∈ (s.toIndexer read network).capabilities.modes, ∀ parameter ∈ mode.parameters,
      ∀ p q : SearchQuery, p.function = mode.function → p.AgreeBut parameter q →
        p.canonicalLines ≠ q.canonicalLines → s.endpoint.searchUrl p ≠ s.endpoint.searchUrl q := by
  intro told_apart
  let p : SearchQuery := { function := .tvSearch, text := "x", season := some "2" }
  refine told_apart ⟨"tpb", ⟨"http://jackett:9117", "K", "tpb"⟩⟩ (fun _ => none)
    (fun _ _ => .error .timedOut)
    ⟨.tvSearch, true, ["q", "season", "ep", "tvdbid", "imdbid"]⟩
    (show _ ∈ Capabilities.standard.modes by decide) "season" (by decide)
    p { p with season := some "02" } rfl rfl (by decide +kernel) (by decide +kernel)

end Jackett

end TorznabGateway
