import Mathlib.Data.List.Forall2
import TorznabGateway.Jackett.Result
import TorznabGateway.Net.Url.Parser
import TorznabGateway.Proofs.Torznab.FeedDates
import TorznabGateway.Search.Sample

/-!
# Which results can be published

The dates of results are read in two forms, and neither form is confined to the years that RSS has
room for: a date with an offset is in another year in UTC, and a date without one may have a year of
any length. One result with such a date leaves the whole feed without an RSS form.

## Main statements

* `Jackett.date_of_readDate?`: how far the dates that are read can be from those that RSS can show.
* `Jackett.Result.published_iff`: which results can be published in which form.
-/
namespace TorznabGateway.Jackett

open Text Time

/-- Whether the text of a date, if it is read at all, is that of a moment in the years 0 to 9999. -/
def FitsRss (s : String) : Prop :=
  ∀ m ∈ Result.readDate? s, Rfc2822.firstSecond ≤ m.seconds ∧ m.seconds < Rfc2822.endSecond

instance (s : String) : Decidable (FitsRss s) :=
  inferInstanceAs (Decidable (∀ m ∈ Result.readDate? s, _))

/-- A date is less than a day away from those that RSS can show, or has no offset; it then fits if
the year that it spells does. -/
theorem date_of_readDate? {s : String} {m : Moment} (h : Result.readDate? s = some m) :
    (Rfc2822.firstSecond - 86400 < m.seconds ∧ m.seconds < Rfc2822.endSecond + 86400)
      ∨ ∃ year rest, Rfc3339.looseYear? s.toList = some (year, rest)
        ∧ (FitsRss s ↔ 0 ≤ year ∧ year ≤ 9999) := by
  have fits : FitsRss s ↔ Rfc2822.isPrintable m := by
    rw [Rfc2822.isPrintable_iff, FitsRss, h]
    simp
  rw [Result.readDate?] at h
  cases strict : Rfc3339.parse? s with
  | some m' =>
    rw [strict] at h
    obtain rfl := Option.some.inj h
    exact .inl (Rfc3339.seconds_of_parse? strict)
  | none =>
    rw [strict] at h
    obtain ⟨year, rest, spelled, printable⟩ := Rfc3339.isPrintable_of_parseLocal? h
    exact .inr ⟨year, rest, spelled, fits.trans printable⟩

namespace Result

variable {read : Url.Reader}

theorem publishDate_of_toItem? {r : Result} {site : String} {item : Item}
    (made : r.toItem? read site = some item) : item.publishDate = r.publishDate.bind readDate? := by
  obtain ⟨link, -, rfl⟩ := Option.map_eq_some_iff.1 made
  rfl

/-- The date of an item fits if its text does. -/
theorem isPrintable_iff_fitsRss {r : Result} {site : String} {item : Item}
    (made : r.toItem? read site = some item) :
    (∀ m ∈ item.publishDate, Rfc2822.isPrintable m) ↔ ∀ s ∈ r.publishDate, FitsRss s := by
  simp only [publishDate_of_toItem? made, FitsRss, Rfc2822.isPrintable_iff]
  cases r.publishDate <;> simp

/-- Results can be published in a form, whatever the feed says about itself, unless the form is RSS
and one of them has a date outside of the years 0 to 9999. -/
theorem published_iff {results : List (Result × String)} {entries : List ResultItem}
    (made : List.Forall₂ (fun x e => x.1.toItem? read x.2 = some e.item) results entries)
    (about : FeedMeta) (format : FeedFormat) :
    ((Feed.encode? ⟨about, entries⟩ format).isSome ↔
        (format = .xml → ∀ x ∈ results, ∀ s ∈ x.1.publishDate, FitsRss s))
      ∧ ∀ s m, readDate? s = some m →
        (Rfc2822.firstSecond - 86400 < m.seconds ∧ m.seconds < Rfc2822.endSecond + 86400)
          ∨ ∃ year rest, Rfc3339.looseYear? s.toList = some (year, rest)
            ∧ (FitsRss s ↔ 0 ≤ year ∧ year ≤ 9999) := by
  refine ⟨?_, fun s m => date_of_readDate?⟩
  rw [Feed.isSome_encode?_iff]
  refine imp_congr_right fun _ => ?_
  simp only [Feed.HasRssDates]
  induction made with
  | nil => simp
  | cons first _ ih =>
    rw [List.forall_mem_cons, List.forall_mem_cons, ih, isPrintable_iff_fitsRss first]

/-- A date in the last hours of the year 9999 at a place behind UTC. The result is published as
Atom, and not as RSS. -/
theorem published_iff_of_late_date :
    let read : Url.Reader := Url.parse? Url.asciiDomain?
    let r : Result := { title := "T", magnetUri := some "magnet:?xt=1",
                        publishDate := some "9999-12-31T23:59:59-01:00" }
    let about : FeedMeta := ⟨"i", "t", "l", "en-US", "search", ⟨0, 0⟩⟩
    ∃ item, r.toItem? read "tpb" = some item
      ∧ (Feed.encode? ⟨about, [.scraped item]⟩ .atom).isSome
      ∧ ¬(Feed.encode? ⟨about, [.scraped item]⟩ .xml).isSome := by
  intro read r about
  obtain ⟨item, made⟩ : ∃ item, r.toItem? read "tpb" = some item := ⟨_, rfl⟩
  have all : List.Forall₂ (fun x e => x.1.toItem? read x.2 = some e.item) [(r, "tpb")]
      [ResultItem.scraped item] := .cons made .nil
  have late : ¬FitsRss "9999-12-31T23:59:59-01:00" := by decide +kernel
  refine ⟨item, made, (published_iff all about .atom).1.2 (by simp), ?_⟩
  rw [(published_iff all about .xml).1]
  intro fits
  exact late (fits rfl (r, "tpb") List.mem_cons_self _ rfl)

/-- A result with a date of a long year leaves a feed without an RSS form, though the results beside
it are ordinary and the same feed has an Atom and a JSON form. -/
theorem feed_without_rss :
    let read : Url.Reader := Url.parse? Url.asciiDomain?
    let r : Result := { title := "T", magnetUri := some "magnet:?xt=1",
                        publishDate := some "+10000-01-01T00:00:00" }
    let about : FeedMeta := ⟨"i", "t", "l", "en-US", "search", ⟨0, 0⟩⟩
    let other : ResultItem := .scraped (Sample.webItem "tpb" "1" "A")
    ∃ item, r.toItem? read "tpb" = some item
      ∧ Feed.encode? ⟨about, [other, .scraped item]⟩ .xml = none
      ∧ (Feed.encode? ⟨about, [other]⟩ .xml).isSome
      ∧ ∀ format ≠ FeedFormat.xml,
        (Feed.encode? ⟨about, [other, .scraped item]⟩ format).isSome := by
  intro read r about other
  refine ⟨_, rfl, ?_, ?_, ?_⟩
  · decide +kernel
  · decide +kernel
  · intro format other
    cases format with
    | xml => exact absurd rfl other
    | atom => rfl
    | json => rfl

end Result

end TorznabGateway.Jackett
