import Mathlib.Algebra.Group.Int.Defs
import TorznabGateway.Jackett.Result
import TorznabGateway.Net.Url.Parser
import TorznabGateway.Proofs.Torznab.Listing

/-!
# The numbers of a result

Jackett gives the size of a result, its seeders, and its peers, which are seeders and leechers
together. An item has leechers, and RSS has peers again. All these numbers are held in words: what
Jackett gives has a sign, and what an item has is unsigned. On the way from the one to the other
nothing is lost but what makes no sense.

## Main definitions

* `Counts`: the numbers of an item as an RSS document shows them.
* `Jackett.Result.InRange`: the results whose numbers fit the words that they are held in.
* `Jackett.Result.Exact`: whether what is computed in words is what would be computed of integers.

## Main statements

* `Feed.readCounts?_render`: the numbers are read back from RSS.
* `Jackett.Result.inRange_of_mem_readAll?`: results that are read are in range.
* `Jackett.Result.counts_shown`: which numbers a result has in RSS.
-/
namespace TorznabGateway

open Text Xml

/-! ## Numbers in RSS -/

/-- The numbers of an item as an RSS document shows them. -/
structure Counts where
  size : Nat
  seeders : Nat
  peers : Nat
  categories : List Nat
  deriving DecidableEq, Repr

/-- The values of the Torznab attributes of a name, in order. -/
def attributeValues (name : String) (es : List Event) : List String :=
  (emptyTags "torznab:attr" es).filterMap fun attributes =>
    if attributes.lookup "name" = some name then attributes.lookup "value" else none

/-- The numbers of an RSS item. Size and categories are both elements and attributes; these have to
agree. -/
def readItemCounts? (es : List Event) : Option Counts := do
  let listing ← readRssItem? es
  let size ← (only? (attributeValues "size" es)).bind readNatural?
  let seeders ← (only? (attributeValues "seeders" es)).bind readNatural?
  let peers ← (only? (attributeValues "peers" es)).bind readNatural?
  let categories ← (attributeValues "category" es).mapM readNatural?
  if size = listing.size ∧ categories = listing.categories then
    some { size, seeders, peers, categories }
  else none

/-- The numbers of the items of an RSS document. -/
def readCounts? (body : String) : Option (List Counts) := do
  let es ← Xml.read? body
  (contents "item" es).mapM readItemCounts?

section

variable (name n value : String) (es fs : List Event)

@[simp] theorem attributeValues_nil : attributeValues name [] = [] := rfl

@[simp] theorem attributeValues_append :
    attributeValues name (es ++ fs) = attributeValues name es ++ attributeValues name fs := by
  rw [attributeValues, emptyTags_append, List.filterMap_append, ← attributeValues,
    ← attributeValues]

@[simp] theorem attributeValues_attribute_cons :
    attributeValues name (Feed.torznabAttribute n value :: es)
      = (if n = name then [value] else []) ++ attributeValues name es := by
  rw [attributeValues, Feed.torznabAttribute, emptyTags_empty, if_pos rfl,
    List.filterMap_append, ← attributeValues]
  split
  case isTrue same => simp [same, List.lookup_cons]
  case isFalse other => simp [other]

@[simp] theorem attributeValues_textElement : attributeValues name (textElement n value) = [] := rfl

@[simp] theorem attributeValues_optionalElement (value : Option String) :
    attributeValues name (optionalElement n value) = [] := by
  cases value <;> rfl

@[simp] theorem attributeValues_optionalAttribute (value : Option String) :
    attributeValues name (Feed.optionalAttribute n value)
      = if n = name then value.toList else [] := by
  cases value <;> simp [Feed.optionalAttribute]

@[simp] theorem attributeValues_flatMap_textElement {α : Type} (f : α → String) (xs : List α) :
    attributeValues name (xs.flatMap fun x => textElement n (f x)) = [] := by
  induction xs with
  | nil => rfl
  | cons x xs ih => simpa using ih

@[simp] theorem attributeValues_map_attribute {α : Type} (f : α → String) (xs : List α) :
    attributeValues name (xs.map fun x => Feed.torznabAttribute n (f x))
      = if n = name then xs.map f else [] := by
  induction xs with
  | nil => simp
  | cons x xs ih =>
    rw [List.map_cons, attributeValues_attribute_cons, ih]
    split <;> rfl

theorem attributeValues_written : attributeValues name (written es) = attributeValues name es := by
  rw [attributeValues, emptyTags_written, attributeValues]

/-- The tags of an element itself have no Torznab attributes. -/
theorem attributeValues_element (attributes : List (String × String)) :
    attributeValues name (Xml.element n attributes es) = attributeValues name es := by
  have start : attributeValues name [.start n attributes] = [] := rfl
  have finish : attributeValues name [.finish n] = [] := rfl
  rw [Xml.element, ← List.singleton_append, attributeValues_append, attributeValues_append, start,
    finish, List.nil_append, List.append_nil]

end

/-- The numbers of an item that RSS has room for. -/
def Item.counts (i : Item) : Counts where
  size := i.size
  seeders := i.seeders
  peers := Feed.peers i
  categories := i.categories

namespace Feed

/-- The Torznab attributes of an RSS item that are numbers. -/
theorem attributeValues_rssItem (r : ResultItem) (date : Option String) :
    attributeValues "size" (rssItem r date) = [Decimal.render r.item.size]
      ∧ attributeValues "seeders" (rssItem r date) = [Decimal.render r.item.seeders]
      ∧ attributeValues "peers" (rssItem r date) = [Decimal.render (peers r.item)]
      ∧ attributeValues "category" (rssItem r date) = r.item.categories.map Decimal.render := by
  have enclosure (name : String) : attributeValues name (if r.item.link.isEmpty then [] else
      [.empty "enclosure" [("url", r.item.link), ("length", Decimal.render r.item.size),
        ("type", torrentType)]]) = [] := by
    split <;> rfl
  unfold rssItem
  simp only [attributeValues_element, attributeValues_append, attributeValues_textElement,
    attributeValues_optionalElement, attributeValues_flatMap_textElement, enclosure,
    attributeValues_map_attribute, attributeValues_attribute_cons, attributeValues_nil,
    attributeValues_optionalAttribute]
  simp

/-- The numbers of an RSS item are read back. -/
theorem readItemCounts?_rssItem (r : ResultItem) (date : Option String) : ∃ attributes body,
    rssItem r date = Xml.element "item" attributes body ∧ Lacks "item" body
      ∧ readItemCounts? (written body) = some r.item.counts := by
  obtain ⟨attributes, body, shape, lacks, listing⟩ := readRssItem?_rssItem r date
  obtain ⟨size, seeders, peers, categories⟩ := attributeValues_rssItem r date
  rw [shape, attributeValues_element] at size seeders peers categories
  refine ⟨attributes, body, shape, lacks, ?_⟩
  simp only [readItemCounts?, listing, attributeValues_written, size, seeders, peers, categories]
  simp [readNatural?_render, mapM_readNatural?, ResultItem.listing, Item.counts]

/-- The numbers of the items are read back from the RSS form of a feed. -/
theorem readCounts?_render (f : Feed) :
    readCounts? (Xml.render f.rssEvents) = some (f.items.map (·.item.counts)) := by
  rw [readCounts?, read?_render (readable_rssEvents f), Option.bind_eq_bind, Option.bind_some]
  exact mapM_contents_rss readItemCounts?_rssItem f

/-- A feed that RSS has dates for is encoded as its RSS document. -/
theorem exists_encode?_of_hasRssDates {f : Feed} (dates : f.HasRssDates) :
    ∃ e, f.encode? .xml = some e ∧ e.body = Xml.render f.rssEvents := by
  refine ⟨⟨"application/rss+xml; charset=utf-8", Xml.render f.rssEvents⟩, ?_, rfl⟩
  rw [encode?, rss?_of_hasRssDates dates, Option.map_some]

end Feed

/-! ## Numbers in words -/

/-- The integer that is left of one in an unsigned word of so many bits: its lowest bits. -/
def wrap (bits : Nat) (n : Int) : Int :=
  n % 2 ^ bits

/-- The integer of 32 bits with a sign that is closest to an integer. -/
def saturate32 (n : Int) : Int :=
  max (-0x80000000) (min n 0x7FFFFFFF)

namespace Jackett.Result

/-- Whether the numbers of a result fit the words that they are held in: 32 bits with a sign for
peers, 64 for the others. -/
structure InRange (r : Result) : Prop where
  size : ∀ n ∈ r.size, -0x8000000000000000 ≤ n ∧ n ≤ 0x7FFFFFFFFFFFFFFF
  seeders : ∀ n ∈ r.seeders, -0x80000000 ≤ n ∧ n ≤ 0x7FFFFFFF
  peers : ∀ n ∈ r.peers, -0x80000000 ≤ n ∧ n ≤ 0x7FFFFFFF
  categories : ∀ n ∈ r.categories, -0x8000000000000000 ≤ n ∧ n ≤ 0x7FFFFFFFFFFFFFFF

/-- The numbers that a result stands for. What is absent or negative counts as zero, those who seed
are peers, and identifiers of categories have 32 bits. -/
def counts (r : Result) : Counts where
  size := (max 0 (r.size.getD 0)).toNat
  seeders := (max 0 (r.seeders.getD 0)).toNat
  peers := (max 0 (max (r.seeders.getD 0) (r.peers.getD 0))).toNat
  categories := (r.categories.filter fun c => 0 ≤ c ∧ c < 2 ^ 32).map Int.toNat

/-- Whether the numbers of an item are those that are computed from a result in words, and no step
of the computation changes the integer that it is about: not the subtraction, which stops at the
ends of its range, not the conversions, which drop bits, and not the sum, which stops at its end. -/
structure Exact (r : Result) (item : Item) : Prop where
  size : (item.size : Int) = wrap 64 (max (r.size.getD 0) 0)
  wrap_size : wrap 64 (max (r.size.getD 0) 0) = max (r.size.getD 0) 0
  seeders : (item.seeders : Int) = wrap 32 (max (r.seeders.getD 0) 0)
  wrap_seeders : wrap 32 (max (r.seeders.getD 0) 0) = max (r.seeders.getD 0) 0
  leechers : (item.leechers : Int)
    = wrap 32 (max (saturate32 (max (r.peers.getD 0) 0 - max (r.seeders.getD 0) 0)) 0)
  saturate_difference : saturate32 (max (r.peers.getD 0) 0 - max (r.seeders.getD 0) 0)
    = max (r.peers.getD 0) 0 - max (r.seeders.getD 0) 0
  wrap_leechers : wrap 32 (max (max (r.peers.getD 0) 0 - max (r.seeders.getD 0) 0) 0)
    = max (max (r.peers.getD 0) 0 - max (r.seeders.getD 0) 0) 0
  peers : Feed.peers item = item.seeders + item.leechers

variable {r : Result}

/-! ### Results that are read -/

theorem range_of_toIntBetween? {low high n : Int} {v : Json}
    (h : Json.toIntBetween? low high v = some n) : low ≤ n ∧ n ≤ high := by
  unfold Json.toIntBetween? at h
  split at h
  · split at h
    · obtain ⟨range, same⟩ := Option.ite_none_right_eq_some.1 h
      exact Option.some.inj same ▸ range
    · cases h
  · cases h

theorem range_of_optional {low high : Int} {record : Json.Record} {name : String} {n : Option Int}
    (h : record.optional name (Json.toIntBetween? low high) = some n) :
    ∀ m ∈ n, low ≤ m ∧ m ≤ high := by
  rintro m rfl
  unfold Json.Record.optional at h
  split at h
  · unfold Json.Record.readOption? at h
    split at h
    · cases h
    · exact range_of_toIntBetween? (by simpa using h)
  · cases h
  · cases h

theorem range_of_withDefault {low high : Int} {record : Json.Record} {name : String}
    {ns : List Int}
    (h : record.withDefault name (Json.readList? (Json.toIntBetween? low high)) [] = some ns) :
    ∀ m ∈ ns, low ≤ m ∧ m ≤ high := by
  unfold Json.Record.withDefault at h
  split at h
  · unfold Json.readList? at h
    split at h
    · intro m hm
      obtain ⟨v, -, found⟩ := exists_of_mem_mapM_some h hm
      exact range_of_toIntBetween? found
    · cases h
  · obtain rfl := Option.some.inj h
    simp

/-- The numbers of results that are read fit their words. -/
theorem inRange_of_mem_readAll? {document : List UInt8} {results : List Result}
    (read : readAll? document = some results) (member : r ∈ results) : r.InRange := by
  simp only [readAll?, Option.bind_eq_bind, Option.bind_eq_some_iff] at read
  obtain ⟨spelled, -, items, -, read⟩ := read
  obtain ⟨v, -, read⟩ := exists_of_mem_mapM_some read member
  obtain ⟨record, -, read⟩ := Option.bind_eq_some_iff.1 read
  obtain ⟨title, -, read⟩ := Option.bind_eq_some_iff.1 read
  obtain ⟨guid, -, read⟩ := Option.bind_eq_some_iff.1 read
  obtain ⟨link, -, read⟩ := Option.bind_eq_some_iff.1 read
  obtain ⟨magnetUri, -, read⟩ := Option.bind_eq_some_iff.1 read
  obtain ⟨infoHash, -, read⟩ := Option.bind_eq_some_iff.1 read
  obtain ⟨details, -, read⟩ := Option.bind_eq_some_iff.1 read
  obtain ⟨size, sizes, read⟩ := Option.bind_eq_some_iff.1 read
  obtain ⟨seeders, seeding, read⟩ := Option.bind_eq_some_iff.1 read
  obtain ⟨peers, peering, read⟩ := Option.bind_eq_some_iff.1 read
  obtain ⟨categories, listed, read⟩ := Option.bind_eq_some_iff.1 read
  obtain ⟨publishDate, -, read⟩ := Option.bind_eq_some_iff.1 read
  obtain ⟨imdb, -, read⟩ := Option.bind_eq_some_iff.1 read
  obtain ⟨tmdb, -, read⟩ := Option.bind_eq_some_iff.1 read
  obtain rfl := Option.some.inj read
  exact ⟨range_of_optional sizes, range_of_optional seeding, range_of_optional peering,
    range_of_withDefault listed⟩

/-! ### Numbers that are shown -/

theorem filterMap_categories (cs : List Int) :
    (cs.filterMap fun (c : Int) =>
        if 0 ≤ c ∧ c ≤ (Decimal.max32 : Int) then some c.toNat else none)
      = (cs.filter fun c => 0 ≤ c ∧ c < 2 ^ 32).map Int.toNat := by
  have fits (c : Int) : c ≤ (Decimal.max32 : Int) ↔ c < 2 ^ 32 := by
    simp only [Decimal.max32]
    omega
  induction cs with
  | nil => rfl
  | cons c cs ih =>
    simp only [fits] at ih ⊢
    rw [List.filterMap_cons, List.filter_cons, ih]
    by_cases kept : 0 ≤ c ∧ c < 2 ^ 32
    · rw [if_pos kept, if_pos (decide_eq_true kept), List.map_cons]
    · rw [if_neg kept, if_neg fun on => kept (of_decide_eq_true on)]

theorem counts_of_toItem? (range : r.InRange) {read : Url.Reader} {site : String} {item : Item}
    (made : r.toItem? read site = some item) : item.counts = r.counts ∧ r.Exact item := by
  obtain ⟨link, -, rfl⟩ := Option.map_eq_some_iff.1 made
  have seeding : -0x80000000 ≤ r.seeders.getD 0 ∧ r.seeders.getD 0 ≤ 0x7FFFFFFF := by
    cases known : r.seeders with
    | none => simp
    | some n => exact range.seeders n known
  have peering : -0x80000000 ≤ r.peers.getD 0 ∧ r.peers.getD 0 ≤ 0x7FFFFFFF := by
    cases known : r.peers with
    | none => simp
    | some n => exact range.peers n known
  have sized : r.size.getD 0 ≤ 0x7FFFFFFFFFFFFFFF := by
    cases known : r.size with
    | none => simp
    | some n => exact (range.size n known).2
  constructor
  case left =>
    simp only [Item.counts, counts, Counts.mk.injEq, Feed.peers, natOrZero]
    refine ⟨by omega, by omega, ?_, filterMap_categories r.categories⟩
    simp only [Decimal.max32]
    omega
  case right =>
    constructor <;> simp only [wrap, saturate32, natOrZero, Feed.peers, Decimal.max32] <;> omega

theorem exists_toItem? (linked : r.link.isSome ∨ r.magnetUri.isSome) (read : Url.Reader)
    (site : String) : ∃ item, r.toItem? read site = some item := by
  have link : (r.itemLink? read).isSome := by
    unfold itemLink?
    cases known : r.link with
    | none => simpa [known] using linked
    | some link => rfl
  rwa [← Option.isSome_iff_exists, toItem?, Option.isSome_map]

/-- A result with a link, whatever numbers its words hold, is an item. Wherever this item stands in
a feed that RSS has dates for, under its own link or another one, a reader of the RSS document finds
the numbers that the result stands for there, and no step of their computation loses anything. -/
theorem counts_shown (range : r.InRange) (linked : r.link.isSome ∨ r.magnetUri.isSome)
    (read : Url.Reader) (site : String) :
    ∃ item, r.toItem? read site = some item ∧ r.Exact item
      ∧ ∀ (about : FeedMeta) (before after : List ResultItem) (entry : ResultItem),
        (∃ link, entry.item = { item with link }) →
        Feed.HasRssDates ⟨about, before ++ entry :: after⟩ →
          ∃ e earlier later, Feed.encode? ⟨about, before ++ entry :: after⟩ .xml = some e
            ∧ readCounts? e.body = some (earlier ++ r.counts :: later)
            ∧ earlier.length = before.length := by
  obtain ⟨item, made⟩ := exists_toItem? linked read site
  obtain ⟨counted, exact_steps⟩ := counts_of_toItem? range made
  refine ⟨item, made, exact_steps, ?_⟩
  rintro about before after entry ⟨link, same⟩ dates
  have shown : entry.item.counts = r.counts := by rw [same, ← counted]; rfl
  obtain ⟨e, encoded, body⟩ := Feed.exists_encode?_of_hasRssDates dates
  refine ⟨e, before.map (·.item.counts), after.map (·.item.counts), encoded, ?_,
    List.length_map _⟩
  rw [body, Feed.readCounts?_render, List.map_append, List.map_cons, shown]

/-- A result with the numbers at the ends of their ranges. -/
theorem counts_shown_extremes :
    let reader : Url.Reader := Url.parse? Url.asciiDomain?
    let r : Result :=
      { title := "T", magnetUri := some "magnet:?xt=1", size := some (-0x8000000000000000),
        seeders := some (-0x80000000), peers := some 0x7FFFFFFF,
        categories := [-1, 0, 0xFFFFFFFF, 0x100000000, 0x7FFFFFFFFFFFFFFF] }
    let about : FeedMeta := ⟨"i", "t", "l", "en-US", "search", ⟨0, 0⟩⟩
    r.InRange ∧ ∃ item, r.toItem? reader "tpb" = some item
      ∧ Feed.HasRssDates ⟨about, [.scraped item]⟩
      ∧ ∃ e earlier later, Feed.encode? ⟨about, [.scraped item]⟩ .xml = some e
        ∧ readCounts? e.body = some (earlier ++ ⟨0, 0, 0x7FFFFFFF, [0, 0xFFFFFFFF]⟩ :: later)
        ∧ earlier.length = 0 := by
  intro reader r about
  have range : r.InRange := by constructor <;> decide
  obtain ⟨item, made, -, shown⟩ := counts_shown range (.inr rfl) reader "tpb"
  have dates : Feed.HasRssDates ⟨about, [.scraped item]⟩ := by
    obtain rfl := Option.some.inj made
    decide
  have counts : r.counts = ⟨0, 0, 0x7FFFFFFF, [0, 0xFFFFFFFF]⟩ := by decide
  have read := shown about [] [] (.scraped item) ⟨item.link, rfl⟩ dates
  exact ⟨range, item, made, dates, counts ▸ read⟩

end Jackett.Result

end TorznabGateway
