import Mathlib.Data.List.Basic
import TorznabGateway.Search.Query

/-!
# Which queries are sent as one text

Indexers that only take a text get the season and the episode of a series search in a marker behind
it. The marker keeps every season and every episode apart, with three exceptions: numerals of one
number are sent as that number, a season that stands alone may already be written as numbers are
sent, and an episode is not sent without a season.

## Main definitions

* `SearchQuery.SeasonSentAs`, `SearchQuery.EpisodeSentAs`: what is sent as a number.

## Main statements

* `SearchQuery.searchText_ne_of_text`: free texts are kept apart.
* `SearchQuery.searchText_eq_iff_of_season`, `SearchQuery.searchText_eq_iff_of_episode`: which
  seasons and which episodes are not.
-/
namespace TorznabGateway.SearchQuery

open Text

/-- Whether a season is sent as a certain number. It is a numeral, and so is the episode if there is
one; or it stands alone, written as the numbers of seasons are sent. -/
def SeasonSentAs (season episode : Option String) (n : Nat) : Prop :=
  ∃ s, season = some s ∧ ((ordinal? s = some n ∧ ∀ e ∈ episode, (ordinal? e).isSome)
    ∨ (s.toList = marked 'S' n ∧ episode = none))

/-- Whether an episode is sent as a certain number: it is a numeral, and so is the season. -/
def EpisodeSentAs (season episode : Option String) (n : Nat) : Prop :=
  ∃ s e, season = some s ∧ episode = some e ∧ (ordinal? s).isSome ∧ ordinal? e = some n

/-! ## Numbers in markers -/

theorem marked_ne_nil (letter : Char) (n : Nat) : marked letter n ≠ [] :=
  List.cons_ne_nil _ _

theorem marked_injective {letter : Char} : Function.Injective (marked letter) :=
  fun _ _ h => Decimal.padded_injective (List.tail_eq_of_cons_eq h)

theorem blank_not_mem_marked {letter : Char} (h : letter ≠ ' ') (n : Nat) :
    ' ' ∉ marked letter n := by
  rw [marked, List.mem_cons, not_or]
  exact ⟨h.symm, fun digit => absurd (Decimal.isDigit_of_mem_padded digit) (by decide)⟩

/-- Only what is no number is sent with a blank between season and episode. -/
theorem marked_append_ne_append_blank (m n : Nat) (cs ds : List Char) :
    marked 'S' m ++ marked 'E' n ≠ cs ++ ' ' :: ds := by
  intro same
  have blank : ' ' ∈ marked 'S' m ++ marked 'E' n := by simp [same]
  rcases List.mem_append.1 blank with season | episode
  · exact blank_not_mem_marked (by decide) m season
  · exact blank_not_mem_marked (by decide) n episode

theorem marked_ne_append_blank (n : Nat) (cs ds : List Char) : marked 'S' n ≠ cs ++ ' ' :: ds := by
  intro same
  have blank : ' ' ∈ marked 'S' n := by simp [same]
  exact blank_not_mem_marked (by decide) n blank

/-- What is sent for a number is no numeral. -/
theorem ordinal?_of_marked {s : String} {n : Nat} (h : s.toList = marked 'S' n) :
    ordinal? s = none := by
  simp [ordinal?, h, marked, Decimal.readUpTo?, Decimal.readNat?, Decimal.readDigits?,
    Decimal.digitValue?]

/-! ## Markers -/

section

variable {s t e f : Option String}

theorem episodeMarker?_alone (a : String) :
    (episodeMarker? (some a) none).getD [] = (ordinal? a).elim a.toList (marked 'S') := by
  cases season : ordinal? a <;> simp [episodeMarker?, season]

theorem episodeMarker?_together (a x : String) :
    (episodeMarker? (some a) (some x)).getD [] = match ordinal? a, ordinal? x with
      | some m, some n => marked 'S' m ++ marked 'E' n
      | _, _ => a.toList ++ ' ' :: x.toList := by
  rw [episodeMarker?]
  cases ordinal? a <;> cases ordinal? x <;> rfl

theorem episodeMarker?_ne_nil {a : String} (h : a ≠ "") (e : Option String) :
    (episodeMarker? (some a) e).getD [] ≠ [] := by
  cases e with
  | none =>
    rw [episodeMarker?_alone]
    cases ordinal? a <;> simp [marked_ne_nil, h]
  | some x =>
    rw [episodeMarker?_together]
    cases ordinal? a <;> cases ordinal? x <;> simp [marked_ne_nil]

/-- A season that is sent as a number is sent by this number only. -/
theorem episodeMarker?_of_seasonSentAs {n : Nat} (h : SeasonSentAs s e n) :
    episodeMarker? s e = some (marked 'S' n ++ (e.bind ordinal?).elim [] (marked 'E')) := by
  obtain ⟨a, rfl, ⟨number, numeral⟩ | ⟨written, rfl⟩⟩ := h
  · cases e with
    | none => simp [episodeMarker?, number]
    | some x =>
      obtain ⟨k, episode⟩ := Option.isSome_iff_exists.1 (numeral x rfl)
      simp [episodeMarker?, number, episode]
  · simp [episodeMarker?, ordinal?_of_marked written, written]

theorem episodeMarker?_of_episodeSentAs {n : Nat} (h : EpisodeSentAs s e n) :
    episodeMarker? s e = some (((s.bind ordinal?).elim [] (marked 'S')) ++ marked 'E' n) := by
  obtain ⟨a, x, rfl, rfl, season, episode⟩ := h
  obtain ⟨m, season⟩ := Option.isSome_iff_exists.1 season
  simp [episodeMarker?, season, episode]

/-- Two seasons that have one marker are sent as one number. -/
theorem seasonSentAs_of_episodeMarker?_eq (differ : s.getD "" ≠ t.getD "")
    (same : (episodeMarker? s e).getD [] = (episodeMarker? t e).getD []) :
    ∃ n, SeasonSentAs s e n ∧ SeasonSentAs t e n := by
  unfold SeasonSentAs
  match s, t with
  | none, none => exact absurd rfl differ
  | none, some b => exact absurd same.symm (episodeMarker?_ne_nil (Ne.symm differ) e)
  | some a, none => exact absurd same (episodeMarker?_ne_nil differ e)
  | some a, some b =>
    have other : a.toList ≠ b.toList := fun h => differ (String.toList_injective h)
    cases e with
    | none =>
      rw [episodeMarker?_alone, episodeMarker?_alone] at same
      cases ha : ordinal? a <;> cases hb : ordinal? b <;> simp_all [marked_injective.eq_iff]
    | some x =>
      have numbers := marked_append_ne_append_blank
      have numbers' := fun m n cs ds => (numbers m n cs ds).symm
      rw [episodeMarker?_together, episodeMarker?_together] at same
      cases ha : ordinal? a <;> cases hb : ordinal? b <;> cases hx : ordinal? x <;>
        simp_all [marked_injective.eq_iff]

/-- Two episodes of one season that have one marker are sent as one number. -/
theorem episodeSentAs_of_episodeMarker?_eq {a : String} (differ : e.getD "" ≠ f.getD "")
    (same : (episodeMarker? (some a) e).getD [] = (episodeMarker? (some a) f).getD []) :
    ∃ n, EpisodeSentAs (some a) e n ∧ EpisodeSentAs (some a) f n := by
  unfold EpisodeSentAs
  have alone (x : String) :
      (episodeMarker? (some a) none).getD [] ≠ (episodeMarker? (some a) (some x)).getD [] := by
    have one := marked_ne_append_blank
    rw [episodeMarker?_alone, episodeMarker?_together]
    cases ha : ordinal? a <;> cases hx : ordinal? x <;> simp_all [marked_ne_nil]
  match e, f with
  | none, none => exact absurd rfl differ
  | none, some y => exact absurd same (alone y)
  | some x, none => exact absurd same.symm (alone x)
  | some x, some y =>
    have other : x.toList ≠ y.toList := fun h => differ (String.toList_injective h)
    have numbers := marked_append_ne_append_blank
    have numbers' := fun m n cs ds => (numbers m n cs ds).symm
    rw [episodeMarker?_together, episodeMarker?_together] at same
    cases ha : ordinal? a <;> cases hx : ordinal? x <;> cases hy : ordinal? y <;>
      simp_all [marked_injective.eq_iff]

end

/-! ## Texts -/

/-- What stands behind the text of a query. -/
def marker? (q : SearchQuery) : Option (List Char) :=
  if q.function = .tvSearch then episodeMarker? q.season q.episode else none

/-- A text with a marker behind it. -/
def withMarker (text : List Char) : Option (List Char) → List Char
  | some m => if text.isEmpty then m else text ++ ' ' :: m
  | none => text

theorem searchText_eq (q : SearchQuery) :
    q.searchText = .ofList (withMarker (trimChars q.text.toList) q.marker?) := by
  unfold searchText
  rw [marker?]
  dsimp only
  split <;> simp_all [withMarker]

theorem withMarker_left_injective (marker : Option (List Char)) :
    Function.Injective (withMarker · marker) := by
  intro text text' same
  cases marker with
  | none => exact same
  | some m =>
    have longer (c : Char) (cs : List Char) : m ≠ c :: (cs ++ ' ' :: m) := by
      intro h
      have := congrArg List.length h
      simp at this
      omega
    cases text <;> cases text' <;> simp_all [withMarker, eq_comm]

theorem getD_eq_of_withMarker_eq {text : List Char} {m m' : Option (List Char)}
    (same : withMarker text m = withMarker text m') : m.getD [] = m'.getD [] := by
  cases m <;> cases m' <;> cases text <;> simp_all [withMarker]

/-- Texts that differ by more than white space around them are sent as different texts. -/
theorem searchText_ne_of_text {p : SearchQuery} {text : String} (differ : trim p.text ≠ trim text) :
    p.searchText ≠ { p with text }.searchText := by
  rw [searchText_eq, searchText_eq]
  intro same
  exact differ (congrArg String.ofList (withMarker_left_injective _ (String.ofList_injective same)))

theorem searchText_eq_iff_of_season {p : SearchQuery} (series : p.function = .tvSearch)
    {season : Option String} (differ : p.season.getD "" ≠ season.getD "") :
    p.searchText = { p with season }.searchText
      ↔ ∃ n, SeasonSentAs p.season p.episode n ∧ SeasonSentAs season p.episode n := by
  simp only [searchText_eq, marker?, if_pos series, String.ofList_inj]
  constructor
  · exact fun same => seasonSentAs_of_episodeMarker?_eq differ (getD_eq_of_withMarker_eq same)
  · rintro ⟨n, one, other⟩
    rw [episodeMarker?_of_seasonSentAs one, episodeMarker?_of_seasonSentAs other]

theorem searchText_eq_iff_of_episode {p : SearchQuery} (series : p.function = .tvSearch)
    {episode : Option String} (differ : p.episode.getD "" ≠ episode.getD "") :
    p.searchText = { p with episode }.searchText
      ↔ p.season = none
        ∨ ∃ n, EpisodeSentAs p.season p.episode n ∧ EpisodeSentAs p.season episode n := by
  simp only [searchText_eq, marker?, if_pos series, String.ofList_inj]
  constructor
  · intro same
    cases season : p.season with
    | none => exact .inl rfl
    | some a =>
      rw [season] at same
      exact .inr (episodeSentAs_of_episodeMarker?_eq differ (getD_eq_of_withMarker_eq same))
  · rintro (absent | ⟨n, one, other⟩)
    · rw [absent, episodeMarker?, episodeMarker?]
    · rw [episodeMarker?_of_episodeSentAs one, episodeMarker?_of_episodeSentAs other]

end TorznabGateway.SearchQuery
