import TorznabGateway.Proofs.Outcome
import TorznabGateway.Proofs.Time.Years
import TorznabGateway.Torznab.FeedDocument

/-!
# Feeds with RSS dates

Atom and JSON can be written of every feed. RSS can be written of a feed if and only if all publish
dates have a mail date; what is written then is given without the failure.

## Main definitions

* `Feed.HasRssDates`: the feeds whose dates have an RSS form.
* `Feed.rssEvents`: the events of their RSS form.

## Main statements

* `Feed.rss?_of_hasRssDates`: these feeds have an RSS form.
* `Feed.isSome_encode?_iff`: which feeds have which forms.
-/
namespace TorznabGateway.Feed

open Time

variable {f : Feed}

/-- Whether all publish dates of a feed have an RSS form. -/
def HasRssDates (f : Feed) : Prop :=
  ∀ r ∈ f.items, ∀ m ∈ r.item.publishDate, Rfc2822.isPrintable m

instance (f : Feed) : Decidable f.HasRssDates :=
  inferInstanceAs (Decidable (∀ r ∈ f.items, ∀ m ∈ r.item.publishDate, _))

/-- The publish date of an item as RSS has it. -/
def rssDate (i : Item) : Option String :=
  i.publishDate.bind Rfc2822.render?

/-- The events of the RSS form of a feed whose dates have one. -/
def rssEvents (f : Feed) : List Xml.Event :=
  .declaration :: Xml.element "rss"
    [("version", "2.0"), ("xmlns:atom", "http://www.w3.org/2005/Atom"),
     ("xmlns:torznab", "http://torznab.com/schemas/2015/feed")]
    (Xml.element "channel" []
      (rssHead f.about ++ f.items.flatMap fun r => rssItem r (rssDate r.item)))

theorem isSome_pubDate?_iff (i : Item) :
    (pubDate? i).isSome ↔ ∀ m ∈ i.publishDate, Rfc2822.isPrintable m := by
  rw [pubDate?]
  cases i.publishDate with
  | none => simp
  | some m => simp [Rfc2822.render?_isSome]

theorem pubDate?_of_isSome {i : Item} (h : (pubDate? i).isSome) :
    pubDate? i = some (rssDate i) := by
  unfold pubDate? at h ⊢
  unfold rssDate
  generalize i.publishDate = date at h ⊢
  cases date with
  | none => rfl
  | some m =>
    obtain ⟨text, rendered⟩ := Option.isSome_iff_exists.1 (Option.isSome_map.symm.trans h)
    simp [rendered]

theorem mapM_rssItem?_iff (rs : List ResultItem) :
    (rs.mapM rssItem?).isSome ↔ ∀ r ∈ rs, (pubDate? r.item).isSome := by
  induction rs with
  | nil => simp
  | cons r rs ih =>
    rw [List.mapM_cons, List.forall_mem_cons, ← ih, rssItem?]
    cases pubDate? r.item <;> cases rs.mapM rssItem? <;> simp

/-- A feed whose dates have an RSS form has one itself. -/
theorem rss?_of_hasRssDates (h : f.HasRssDates) : f.rss? = some f.rssEvents := by
  have dates : ∀ r ∈ f.items, (pubDate? r.item).isSome := fun r hr =>
    (isSome_pubDate?_iff r.item).2 (h r hr)
  have items : f.items.mapM rssItem? = some (f.items.map fun r => rssItem r (rssDate r.item)) :=
    mapM_eq_some fun r hr => by rw [rssItem?, pubDate?_of_isSome (dates r hr), Option.map_some]
  rw [rss?, items, Option.map_some, rssEvents, List.flatMap_def]

theorem isSome_rss?_iff : f.rss?.isSome ↔ f.HasRssDates := by
  rw [rss?, Option.isSome_map, mapM_rssItem?_iff]
  exact forall₂_congr fun r _ => isSome_pubDate?_iff r.item

/-- Every feed has an Atom and a JSON form; it has an RSS form if its dates do. -/
theorem isSome_encode?_iff (format : FeedFormat) :
    (f.encode? format).isSome ↔ (format = .xml → f.HasRssDates) := by
  cases format with
  | xml => simpa [encode?] using isSome_rss?_iff
  | atom => simp [encode?]
  | json => simp [encode?]

end TorznabGateway.Feed
