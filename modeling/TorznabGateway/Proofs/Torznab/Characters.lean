import TorznabGateway.Proofs.Torznab.Markup
import TorznabGateway.Proofs.Xml.Characters

/-!
# Characters that XML does not allow

Titles and links come from indexers, and descriptions of errors repeat what a request said. No
writer of XML looks for characters that XML does not allow, so a document has exactly those that its
strings have. What the gateway adds, such as numbers, dates and identifiers, has none.

## Main definitions

* `Document.strings`: the strings of a document that come from outside, in the order of writing.

## Main statements

* `Document.foreign_text`: the characters of a document that XML does not allow are those of its
  strings.
-/
namespace TorznabGateway

open Text Time Xml

/-! ## What the gateway writes itself -/

@[simp] theorem Text.Decimal.foreign_digits (n : Nat) : foreign (Decimal.digits n) = [] :=
  foreign_eq_nil_iff.2 fun _ hc => isChar_of_isDigit (isDigit_of_mem hc)

@[simp] theorem Text.Decimal.foreign_render (n : Nat) : foreign (Decimal.render n).toList = [] := by
  rw [Decimal.render, String.toList_ofList, foreign_digits]

@[simp] theorem Text.Decimal.foreign_padded (width n : Nat) :
    foreign (Decimal.padded width n) = [] :=
  foreign_eq_nil_iff.2 fun _ hc => isChar_of_isDigit (isDigit_of_mem_padded hc)

theorem Text.Hex.foreign_encodeChars (bs : List UInt8) : foreign (Hex.encodeChars bs) = [] := by
  have one : ∀ n < 16, foreign [Hex.digit n] = [] := by decide
  induction bs with
  | nil => rfl
  | cons b bs ih =>
    have high : b.toNat / 16 < 16 := by have := b.toNat_lt; omega
    have low : b.toNat % 16 < 16 := Nat.mod_lt _ (by omega)
    calc foreign (Hex.encodeChars (b :: bs))
        = foreign ([Hex.digit (b.toNat / 16)] ++ [Hex.digit (b.toNat % 16)]
            ++ Hex.encodeChars bs) := rfl
      _ = [] := by simp only [foreign_append, one _ high, one _ low, ih, List.append_nil]

@[simp] theorem Uuid.foreign_render (u : Uuid) : foreign u.render.toList = [] := by
  have parts : ∀ c ∈ u.chars, c ∈ Hex.encodeChars u.bytes ∨ c = '-' := by
    intro c hc
    simp only [chars, List.mem_append, List.mem_cons] at hc
    grind [List.mem_of_mem_take, List.mem_of_mem_drop]
  rw [render, String.toList_ofList, foreign_eq_nil_iff]
  intro c hc
  rcases parts c hc with digit | rfl
  · exact foreign_eq_nil_iff.1 (Hex.foreign_encodeChars u.bytes) c digit
  · decide

/-- Dates are made of numbers and names, with ASCII between them. -/
theorem Time.Rfc2822.foreign_render {m : Moment} {s : String} (h : Rfc2822.render? m = some s) :
    foreign s.toList = [] := by
  have name (names : List String) (plain : foreignIn names = []) (n : Nat) :
      foreign (names.getD n "").toList = [] := by
    rw [List.getD_eq_getElem?_getD]
    cases found : names[n]? with
    | none => rfl
    | some name =>
      exact foreign_eq_nil_iff.2 (foreignIn_eq_nil_iff.1 plain name (List.mem_of_getElem? found))
  have weekday := name weekdayNames (by decide)
  have month := name monthNames (by decide)
  rw [render?] at h
  split at h
  · obtain rfl := Option.some.inj h
    simp +decide only [String.toList_ofList, foreign_append, foreign_cons, foreign_nil, weekday,
      month, Decimal.foreign_padded, Decimal.foreign_digits, List.append_nil, if_true]
  · cases h

@[simp] theorem Time.Rfc3339.foreign_renderOffset (m : Moment) :
    foreign (Rfc3339.renderOffset m).toList = [] := by
  have year (y : Int) : foreign (yearChars y) = [] := by
    unfold yearChars
    split
    · exact Decimal.foreign_padded 4 _
    · split <;> simp +decide [foreign_cons]
  have fraction (n : Nat) : foreign (fractionChars n) = [] := by
    unfold fractionChars
    repeat' split
    all_goals simp +decide [foreign_cons]
  simp +decide [renderOffset, renderChars, foreign_cons, year, fraction]

@[simp] theorem Text.foreign_joinTexts (xs : List String) :
    foreign (joinTexts "," xs).toList = foreignIn xs := by
  have comma : foreign ",".toList = [] := by decide
  rw [joinTexts, String.toList_ofList]
  induction xs with
  | nil => rfl
  | cons x xs ih =>
    cases xs with
    | nil => simp [joinWith]
    | cons y rest =>
      rw [List.map_cons] at ih
      simp only [List.map_cons, joinWith, foreign_append, comma, ih, foreignIn_cons,
        List.append_nil]

/-! ## What comes from outside -/

/-- The strings of an item that RSS shows; the link stands in the enclosure too. -/
def ResultItem.rssStrings (r : ResultItem) : List String :=
  let i := r.item
  [i.title, i.link] ++ i.detailsUrl.toList ++ [i.link] ++ i.infoHash.toList ++ i.magnetUri.toList
    ++ i.imdbId.toList

/-- The strings of an item that Atom shows. -/
def ResultItem.atomStrings (r : ResultItem) : List String :=
  [r.item.title, r.item.link] ++ r.item.detailsUrl.toList

/-- The strings of a document that come from outside, in the order of writing. -/
def Document.strings : Document → List String
  | .rss f =>
    [f.about.link, f.about.title, f.about.title, f.about.link, f.about.language, f.about.category]
      ++ f.items.flatMap ResultItem.rssStrings
  | .atom f =>
    [f.about.id, f.about.title, f.about.link, f.about.category]
      ++ f.items.flatMap ResultItem.atomStrings
  | .capabilities title caps =>
    title :: (caps.modes.flatMap SearchMode.parameters ++ caps.categories.map Category.name)
  | .error e => [e.description]

namespace Feed

theorem foreign_torznabAttribute {name : String} (plain : foreign name.toList = [])
    (value : String) : foreignIn (torznabAttribute name value).data = foreign value.toList := by
  simp [torznabAttribute, Event.data, plain]

theorem foreign_optionalAttribute {name : String} (plain : foreign name.toList = [])
    (value : Option String) :
    foreignIn (data (optionalAttribute name value)) = foreignIn value.toList := by
  cases value with
  | none => rfl
  | some value => simp [optionalAttribute, foreign_torznabAttribute plain]

@[simp] theorem foreign_rssDate (i : Item) : foreignIn (rssDate i).toList = [] := by
  rw [rssDate]
  cases i.publishDate with
  | none => rfl
  | some m =>
    rw [Option.bind_some]
    cases date : Rfc2822.render? m with
    | none => rfl
    | some s => simp [Rfc2822.foreign_render date]

/-- Events for categories hold numbers only. -/
theorem foreign_categories {f : Nat → List String} (plain : ∀ c, foreignIn (f c) = [])
    (categories : List Nat) : foreignIn (categories.flatMap f) = [] := by
  simp [foreignIn_flatMap, plain]

/-- An item in RSS has the foreign characters of its strings. -/
theorem foreign_rssItem (r : ResultItem) :
    foreignIn (data (rssItem r (rssDate r.item))) = foreignIn r.rssStrings := by
  have enclosure : foreignIn (data (if r.item.link.isEmpty then [] else
      [.empty "enclosure" [("url", r.item.link), ("length", Decimal.render r.item.size),
        ("type", torrentType)]])) = foreign r.item.link.toList := by
    split
    case isTrue empty => simp [String.isEmpty_iff.1 empty]
    case isFalse => simp +decide [Event.data, torrentType, foreign_cons]
  have categories : foreignIn (data (r.item.categories.flatMap fun c =>
      textElement "category" (Decimal.render c))) = [] := by
    rw [data_flatMap]
    exact foreign_categories (fun c => by simp) _
  have marks : foreignIn (data (r.item.categories.map fun c =>
      torznabAttribute "category" (Decimal.render c))) = [] := by
    rw [data_map]
    refine foreign_categories (fun c => ?_) _
    rw [foreign_torznabAttribute (by decide), Decimal.foreign_render]
  have tmdb : foreignIn (r.item.tmdbId.map Decimal.render).toList = [] := by
    cases r.item.tmdbId <;> simp
  have names : foreign "size".toList = [] ∧ foreign "seeders".toList = []
    ∧ foreign "peers".toList = [] ∧ foreign "infohash".toList = []
    ∧ foreign "magneturl".toList = [] ∧ foreign "imdbid".toList = []
    ∧ foreign "tmdbid".toList = [] := by decide
  obtain ⟨size, seeders, peers, infohash, magneturl, imdbid, tmdbid⟩ := names
  simp only [rssItem, ResultItem.rssStrings, data_element, data_append, data_textElement,
    data_optionalElement, data_cons, data_nil, List.map_nil, List.nil_append, foreignIn_append,
    foreignIn_cons, foreignIn_nil, List.append_nil, foreign_rssDate, Uuid.foreign_render,
    Decimal.foreign_render, enclosure, categories, marks, tmdb, foreign_torznabAttribute size,
    foreign_torznabAttribute seeders, foreign_torznabAttribute peers,
    foreign_optionalAttribute infohash, foreign_optionalAttribute magneturl,
    foreign_optionalAttribute imdbid, foreign_optionalAttribute tmdbid]

theorem foreign_rssEvents (f : Feed) :
    foreignIn (data f.rssEvents) = foreignIn (Document.rss f).strings := by
  have head : foreignIn (data (rssHead f.about)) = foreignIn [f.about.link, f.about.title,
      f.about.title, f.about.link, f.about.language, f.about.category] := by
    simp +decide [rssHead, Event.data, foreign_cons]
  have names : foreignIn ["2.0", "http://www.w3.org/2005/Atom",
      "http://torznab.com/schemas/2015/feed"] = [] := by decide
  have items : foreignIn (data (f.items.flatMap fun r => rssItem r (rssDate r.item)))
      = foreignIn (f.items.flatMap ResultItem.rssStrings) := by
    simp only [data_flatMap, foreignIn_flatMap, foreign_rssItem]
  simp only [rssEvents, Document.strings, data_cons, Event.data, data_element, data_append,
    List.map_cons, List.map_nil, List.nil_append, foreignIn_append, names, head, items]

/-- An entry in Atom has the foreign characters of its strings. -/
theorem foreign_atomEntry (built : Moment) (r : ResultItem) :
    foreignIn (data (atomEntry built r)) = foreignIn r.atomStrings := by
  have categories : foreignIn (data (r.item.categories.map fun c =>
      .empty "category" [("term", Decimal.render c)])) = [] := by
    rw [data_map]
    exact foreign_categories (fun c => by simp [Event.data]) _
  have enclosure : foreignIn (data [.empty "link" [("href", r.item.link), ("rel", "enclosure"),
      ("type", torrentType), ("length", Decimal.render r.item.size)]])
      = foreign r.item.link.toList := by
    simp +decide [Event.data, torrentType, foreign_cons]
  have scheme : foreign "urn:uuid:".toList = [] := by decide
  simp only [atomEntry, ResultItem.atomStrings, data_element, data_append, data_textElement,
    List.map_nil, List.nil_append, foreignIn_append, foreignIn_cons, foreignIn_nil,
    String.toList_append, foreign_append, List.append_nil, scheme, Uuid.foreign_render,
    Rfc3339.foreign_renderOffset, enclosure, categories]
  cases r.item.detailsUrl <;> simp +decide [Event.data, foreign_cons]

theorem foreign_atom (f : Feed) :
    foreignIn (data f.atom) = foreignIn (Document.atom f).strings := by
  have entries : foreignIn (data (f.items.flatMap (atomEntry f.about.updated)))
      = foreignIn (f.items.flatMap ResultItem.atomStrings) := by
    simp only [data_flatMap, foreignIn_flatMap, foreign_atomEntry]
  simp +decide [atom, Document.strings, Event.data, foreign_cons, entries]

end Feed

theorem CapsDocument.foreign_events (title : String) (caps : Capabilities) :
    foreignIn (data (events title caps))
      = foreignIn (Document.capabilities title caps).strings := by
  have modes : foreignIn (data (caps.modes.map modeEvent))
      = foreignIn (caps.modes.flatMap SearchMode.parameters) := by
    have mode (m : SearchMode) : foreignIn (modeEvent m).data = foreignIn m.parameters := by
      rw [modeEvent]
      cases m.available <;> simp +decide [Event.data, foreign_cons]
    simp only [data_map, foreignIn_flatMap, mode]
  have categories : foreignIn (data (caps.categories.map categoryEvent))
      = foreignIn (caps.categories.map Category.name) := by
    have category (c : Category) : foreignIn (categoryEvent c).data = foreign c.name.toList := by
      simp [categoryEvent, Event.data]
    rw [data_map, foreignIn_flatMap, foreignIn, List.flatMap_map]
    simp only [category]
  simp +decide [events, Document.strings, Event.data, serverVersion, foreign_cons, modes,
    categories]

theorem TorznabError.foreign_events (e : TorznabError) :
    foreignIn (data e.events) = foreignIn (Document.error e).strings := by
  simp [events, Document.strings, Event.data]

namespace Document

theorem foreign_events (d : Document) : foreignIn (data d.events) = foreignIn d.strings := by
  cases d with
  | rss f => exact Feed.foreign_rssEvents f
  | atom f => exact Feed.foreign_atom f
  | capabilities title caps => exact CapsDocument.foreign_events title caps
  | error e => exact TorznabError.foreign_events e

/-- The text of a document has the foreign characters of its strings. -/
theorem foreign_render (d : Document) :
    foreign (Xml.render d.events).toList = foreignIn d.strings := by
  rw [Xml.foreign_render d.readable_events, foreign_events]

/-- Every document whose dates can be written is written. The characters in it that XML does not
allow are, in this order, those of the strings that come from outside. So all its characters are
allowed exactly if all those of the strings are. -/
theorem foreign_text {d : Document} (dates : d.HasDates) :
    ∃ s, d.text? = some s ∧ foreign s.toList = foreignIn d.strings
      ∧ ((∀ c ∈ s.toList, IsChar c) ↔ ∀ t ∈ d.strings, ∀ c ∈ t.toList, IsChar c) := by
  refine ⟨_, text?_eq dates, foreign_render d, ?_⟩
  rw [← foreign_eq_nil_iff, foreign_render, foreignIn_eq_nil_iff]

/-- A feed of one dated item. -/
def sampleFeed (title : String) : Feed :=
  ⟨⟨"i", "t", "l", "en-US", "search", ⟨0, 0⟩⟩, [.scraped (Sample.webItem "tpb" "1" title)]⟩

/-- Only the two characters of the title that XML does not allow are found in the feed. -/
theorem foreign_text_of_title :
    ∃ s, (rss (sampleFeed "A\x01B\uFFFE")).text? = some s
      ∧ foreign s.toList = ['\x01', '\uFFFE'] := by
  have dates : (sampleFeed "A\x01B\uFFFE").HasRssDates := by decide
  obtain ⟨s, text, foreign, -⟩ := foreign_text (d := rss (sampleFeed "A\x01B\uFFFE")) dates
  exact ⟨s, text, foreign.trans (by decide)⟩

/-- A control character in a title stands in the feeds, and one in a parameter in the error. -/
theorem control_character_written :
    ¬IsChar '\x01' ∧ ∀ d ∈ [rss (sampleFeed "A\x01B"), atom (sampleFeed "A\x01B"),
      error (.incorrectParameter "A\x01B")], ∃ s, d.text? = some s ∧ '\x01' ∈ s.toList := by
  refine ⟨by decide, ?_⟩
  have dates : (sampleFeed "A\x01B").HasRssDates := by decide
  have written {d : Document} (dates : d.HasDates) (given : '\x01' ∈ foreignIn d.strings) :
      ∃ s, d.text? = some s ∧ '\x01' ∈ s.toList := by
    rw [← foreign_render] at given
    exact ⟨_, text?_eq dates, (mem_foreign_iff.1 given).1⟩
  simp only [List.forall_mem_cons]
  exact ⟨written dates (by decide), written trivial (by decide), written trivial (by decide),
    List.forall_mem_nil _⟩

end Document

end TorznabGateway
