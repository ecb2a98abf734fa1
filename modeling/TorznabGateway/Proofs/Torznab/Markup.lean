import TorznabGateway.Proofs.Torznab.FeedDates
import TorznabGateway.Proofs.Xml.Reading
import TorznabGateway.Search.Sample
import TorznabGateway.Torznab.CapsDocument
import TorznabGateway.Torznab.Error

/-!
# Data adds no markup

The documents of the gateway are written with data from requests and from indexers. A reader gets
every text and attribute value back as it was, and the tags that it meets are settled by the shape
of what was written: how many items, categories and modes there are, which fields are present, and
which functions the modes have.

## Main definitions

* `Document`: the documents that are written in XML.
* `Document.shape`: what their tags depend on.

## Main statements

* `Document.readable_events`: a reader can take every document apart.
* `Document.tags_eq_of_shape`: documents of one shape have the same tags.
* `Document.read_of_shape`: what a reader gets of two documents of one shape.
-/
namespace TorznabGateway

open Text Time Xml

/-! ## Shapes -/

/-- What the tags of an item depend on: how many categories it has, whether its link is empty, and
which of the optional fields are present. -/
structure ItemShape where
  categories : Nat
  linked : Bool
  dated : Bool
  details : Bool
  infoHash : Bool
  magnet : Bool
  imdb : Bool
  tmdb : Bool
  deriving DecidableEq, Repr

def ResultItem.shape (r : ResultItem) : ItemShape where
  categories := r.item.categories.length
  linked := !r.item.link.isEmpty
  dated := r.item.publishDate.isSome
  details := r.item.detailsUrl.isSome
  infoHash := r.item.infoHash.isSome
  magnet := r.item.magnetUri.isSome
  imdb := r.item.imdbId.isSome
  tmdb := r.item.tmdbId.isSome

/-- A document that is written in XML. -/
inductive Document where
  | rss (f : Feed)
  | atom (f : Feed)
  | capabilities (title : String) (caps : Capabilities)
  | error (e : TorznabError)

/-- What the tags of a document depend on. -/
inductive DocumentShape where
  | rss (items : List ItemShape)
  | atom (items : List ItemShape)
  | capabilities (modes : List SearchFunction) (categories : Nat)
  | error
  deriving DecidableEq, Repr

namespace Document

/-- The text that is written, if there is one. -/
def text? : Document → Option String
  | .rss f => (f.encode? .xml).map EncodedFeed.body
  | .atom f => (f.encode? .atom).map EncodedFeed.body
  | .capabilities title caps => some (CapsDocument.render title caps)
  | .error e => some e.xml

/-- The events that are written. -/
def events : Document → List Event
  | .rss f => f.rssEvents
  | .atom f => f.atom
  | .capabilities title caps => CapsDocument.events title caps
  | .error e => e.events

/-- Whether the dates of an RSS feed can be written. -/
def HasDates : Document → Prop
  | .rss f => f.HasRssDates
  | _ => True

def shape : Document → DocumentShape
  | .rss f => .rss (f.items.map ResultItem.shape)
  | .atom f => .atom (f.items.map ResultItem.shape)
  | .capabilities _ caps =>
    .capabilities (caps.modes.map SearchMode.function) caps.categories.length
  | .error _ => .error

theorem text?_eq {d : Document} (h : d.HasDates) : d.text? = some (Xml.render d.events) := by
  cases d with
  | rss f => rw [text?, Feed.encode?, Feed.rss?_of_hasRssDates h]; rfl
  | atom f => rfl
  | capabilities title caps => rfl
  | error e => rfl

end Document

/-! ## Documents are taken apart -/

namespace Feed

theorem isTag_attribute (name value : String) : (torznabAttribute name value).IsTag :=
  Event.isTag_empty ["name", "value"] rfl (by decide)

theorem readable_optionalAttribute (name : String) (value : Option String) :
    Readable (optionalAttribute name value) := by
  cases value with
  | none => exact .nil
  | some value => exact .tag (isTag_attribute name value) .nil

theorem readable_rssItem (r : ResultItem) (date : Option String) : Readable (rssItem r date) := by
  have enclosure : Readable (if r.item.link.isEmpty then [] else
      [.empty "enclosure" [("url", r.item.link), ("length", Decimal.render r.item.size),
        ("type", torrentType)]]) := by
    split
    · exact .nil
    · exact .tag (Event.isTag_empty ["url", "length", "type"] rfl (by decide)) .nil
  refine .element (by decide) (by decide) ?_
  repeat' apply Readable.append
  exacts [.textElement (by decide) _, .textElement (by decide) _, .textElement (by decide) _,
    .optionalElement (by decide) _, .optionalElement (by decide) _, .textElement (by decide) _,
    .flatMap fun c _ => .textElement (by decide) _, enclosure,
    .map fun c _ => isTag_attribute _ _,
    .tag (isTag_attribute _ _) (.tag (isTag_attribute _ _) (.tag (isTag_attribute _ _) .nil)),
    readable_optionalAttribute _ _, readable_optionalAttribute _ _,
    readable_optionalAttribute _ _, readable_optionalAttribute _ _]

theorem readable_rssHead (m : FeedMeta) : Readable (rssHead m) := by
  refine .tag (Event.isTag_empty ["href", "rel", "type"] rfl (by decide)) ?_
  repeat' apply Readable.append
  all_goals exact .textElement (by decide) _

theorem readable_rssEvents (f : Feed) : Readable f.rssEvents := by
  refine .tag trivial (.element (by decide) (by decide) (.element (by decide) (by decide) ?_))
  exact (readable_rssHead f.about).append (.flatMap fun r _ => readable_rssItem r _)

theorem readable_atomEntry (built : Moment) (r : ResultItem) : Readable (atomEntry built r) := by
  refine .element (by decide) (by decide) ?_
  repeat' apply Readable.append
  iterate 3 exact .textElement (by decide) _
  · exact .tag (Event.isTag_empty ["href", "rel", "type", "length"] rfl (by decide)) .nil
  · cases r.item.detailsUrl with
    | none => exact .nil
    | some url => exact .tag (Event.isTag_empty ["href", "rel"] rfl (by decide)) .nil
  · exact .map fun c _ => Event.isTag_empty ["term"] rfl (by decide)

theorem readable_atom (f : Feed) : Readable f.atom := by
  refine .tag trivial (.element (by decide) (by decide) ?_)
  repeat' apply Readable.append
  exacts [.textElement (by decide) _, .textElement (by decide) _, .textElement (by decide) _,
    .tag (Event.isTag_empty ["href", "rel"] rfl (by decide))
      (.tag (Event.isTag_empty ["term"] rfl (by decide)) .nil),
    .flatMap fun r _ => readable_atomEntry _ r]

end Feed

theorem isName_capsElement (function : SearchFunction) : IsName function.capsElement := by
  cases function <;> decide

theorem CapsDocument.readable_events (title : String) (caps : Capabilities) :
    Readable (events title caps) := by
  have mode (m : SearchMode) : (modeEvent m).IsTag :=
    Event.isTag_empty ["available", "supportedParams"] rfl
      (List.forall_mem_cons.2 ⟨isName_capsElement m.function, by decide⟩)
  have category (c : Category) : (categoryEvent c).IsTag :=
    Event.isTag_empty ["id", "name"] rfl (by decide)
  have head : Readable [.empty "server" [("version", serverVersion), ("title", title)],
      .empty "limits" [("max", Decimal.render caps.limits.max),
        ("default", Decimal.render caps.limits.default)]] :=
    .tag (Event.isTag_empty ["version", "title"] rfl (by decide))
      (.tag (Event.isTag_empty ["max", "default"] rfl (by decide)) .nil)
  have modes : Readable (element "searching" [] (caps.modes.map modeEvent)) :=
    .element (by decide) (by decide) (.map fun m _ => mode m)
  have categories : Readable (element "categories" [] (caps.categories.map categoryEvent)) :=
    .element (by decide) (by decide) (.map fun c _ => category c)
  exact .tag trivial (.element (by decide) (by decide) ((head.append modes).append categories))

theorem TorznabError.readable_events (e : TorznabError) : Readable e.events :=
  .tag trivial (.tag (Event.isTag_empty ["code", "description"] rfl (by decide)) .nil)

/-- A reader can take every document apart. -/
theorem Document.readable_events (d : Document) : Readable d.events := by
  cases d with
  | rss f => exact Feed.readable_rssEvents f
  | atom f => exact Feed.readable_atom f
  | capabilities title caps => exact CapsDocument.readable_events title caps
  | error e => exact TorznabError.readable_events e

/-! ## Tags depend on the shape -/

namespace Feed

theorem tags_optionalAttribute (name : String) (value : Option String) :
    tags (optionalAttribute name value)
      = if value.isSome then [.empty "torznab:attr" ["name", "value"]] else [] := by
  cases value <;> rfl

/-- Items of one shape have the same tags in RSS. -/
theorem tags_rssItem_eq {r s : ResultItem} (h : r.shape = s.shape) {date date' : Option String}
    (dated : date.isSome = date'.isSome) :
    tags (rssItem r date) = tags (rssItem s date') := by
  obtain ⟨categories, linked, -, details, infoHash, magnet, imdb, tmdb⟩ := ItemShape.mk.inj h
  have link : r.item.link.isEmpty = s.item.link.isEmpty := by simpa using linked
  have enclosure (i : Item) : tags (if i.link.isEmpty then [] else
      [.empty "enclosure" [("url", i.link), ("length", Decimal.render i.size),
        ("type", torrentType)]])
      = if i.link.isEmpty then [] else [.empty "enclosure" ["url", "length", "type"]] := by
    split <;> rfl
  have mark (c : Nat) : (torznabAttribute "category" (Decimal.render c)).tag?
      = some (.empty "torznab:attr" ["name", "value"]) := rfl
  have category (c : Nat) : tags (textElement "category" (Decimal.render c))
      = [.start "category" [], .finish "category"] := rfl
  simp only [rssItem, tags_element, tags_append, tags_textElement, tags_optionalElement,
    tags_optionalAttribute, tags_flatMap_of_forall category, tags_map mark, List.map_const',
    enclosure, Option.isSome_map, categories, dated, details, infoHash, magnet, imdb, tmdb]
  rw [link]
  rfl

theorem isSome_rssDate {f : Feed} (hf : f.HasRssDates) {r : ResultItem} (hr : r ∈ f.items) :
    (rssDate r.item).isSome = r.shape.dated := by
  have printable := hf r hr
  rw [rssDate, ResultItem.shape]
  cases dated : r.item.publishDate with
  | none => rfl
  | some m => exact (Rfc2822.render?_isSome m).trans (printable m dated)

/-- Feeds with items of the same shapes have the same tags in RSS. -/
theorem tags_rssEvents_eq {f g : Feed} (hf : f.HasRssDates) (hg : g.HasRssDates)
    (h : f.items.map ResultItem.shape = g.items.map ResultItem.shape) :
    tags f.rssEvents = tags g.rssEvents := by
  let key (r : ResultItem) : ItemShape × Bool := (r.shape, (rssDate r.item).isSome)
  have keys {f : Feed} (hf : f.HasRssDates) :
      f.items.map key = (f.items.map ResultItem.shape).map fun s => (s, s.dated) := by
    rw [List.map_map]
    exact List.map_congr_left fun r hr => Prod.ext rfl (isSome_rssDate hf hr)
  have items : tags (f.items.flatMap fun r => rssItem r (rssDate r.item))
      = tags (g.items.flatMap fun r => rssItem r (rssDate r.item)) := by
    have same : f.items.map key = g.items.map key := by rw [keys hf, keys hg, h]
    refine tags_flatMap_eq (fun r s same => ?_) same
    exact tags_rssItem_eq (congrArg Prod.fst same) (congrArg Prod.snd same)
  have head : tags (rssHead f.about) = tags (rssHead g.about) := rfl
  have channel {f : Feed} : tags f.rssEvents = .declaration
      :: .start "rss" ["version", "xmlns:atom", "xmlns:torznab"] :: .start "channel" []
      :: (tags (rssHead f.about) ++ tags (f.items.flatMap fun r => rssItem r (rssDate r.item)))
      ++ [.finish "channel", .finish "rss"] := by
    simp [rssEvents, tags_element]
  rw [channel, channel, head, items]

/-- Items of one shape have the same tags in Atom. -/
theorem tags_atomEntry_eq {r s : ResultItem} (h : r.shape = s.shape) (built built' : Moment) :
    tags (atomEntry built r) = tags (atomEntry built' s) := by
  obtain ⟨categories, -, -, details, -⟩ := ItemShape.mk.inj h
  have category (c : Nat) : (Event.empty "category" [("term", Decimal.render c)]).tag?
      = some (.empty "category" ["term"]) := rfl
  cases hr : r.item.detailsUrl <;> cases hs : s.item.detailsUrl
  case none.some | some.none => simp [hr, hs] at details
  all_goals
    simp only [atomEntry, tags_element, tags_append, tags_textElement, tags_map category,
      List.map_const', hr, hs, categories]
    rfl

/-- Feeds with items of the same shapes have the same tags in Atom. -/
theorem tags_atom_eq {f g : Feed}
    (h : f.items.map ResultItem.shape = g.items.map ResultItem.shape) :
    tags f.atom = tags g.atom := by
  have items := tags_flatMap_eq (fun r s same => tags_atomEntry_eq same f.about.updated
    g.about.updated) h
  simp only [atom, tags_declaration, tags_element, tags_append, tags_textElement, items]
  rfl

end Feed

/-- Capabilities with the same functions and as many categories have the same tags. -/
theorem CapsDocument.tags_events_eq {title title' : String} {caps caps' : Capabilities}
    (modes : caps.modes.map SearchMode.function = caps'.modes.map SearchMode.function)
    (categories : caps.categories.length = caps'.categories.length) :
    tags (events title caps) = tags (events title' caps') := by
  have category (c : Category) : (categoryEvent c).tag? = some (.empty "category" ["id", "name"]) :=
    rfl
  have mode (m : SearchMode) : (modeEvent m).tag?
      = some (.empty m.function.capsElement ["available", "supportedParams"]) := rfl
  have functions : caps.modes.map (fun m => Tag.empty m.function.capsElement
      ["available", "supportedParams"]) = caps'.modes.map fun m =>
        .empty m.function.capsElement ["available", "supportedParams"] := by
    simpa [Function.comp_def] using congrArg (List.map fun function : SearchFunction =>
      Tag.empty function.capsElement ["available", "supportedParams"]) modes
  simp only [events, tags_declaration, tags_element, tags_append, tags_map category, tags_map mode,
    List.map_const', categories, functions]
  rfl

namespace Document

/-- Documents of one shape have the same tags. -/
theorem tags_eq_of_shape {d e : Document} (hd : d.HasDates) (he : e.HasDates)
    (h : d.shape = e.shape) : tags d.events = tags e.events := by
  cases d <;> cases e <;> simp only [shape, DocumentShape.rss.injEq, DocumentShape.atom.injEq,
    DocumentShape.capabilities.injEq, reduceCtorEq] at h
  case rss.rss f g => exact Feed.tags_rssEvents_eq hd he h
  case atom.atom f g => exact Feed.tags_atom_eq h
  case capabilities.capabilities => exact CapsDocument.tags_events_eq h.1 h.2
  case error.error => rfl

/-- Two documents of one shape are written, and a reader gets from each of them exactly the events
with its own texts and attribute values; the tags, with the names of their attributes, are the same
in both. -/
theorem read_of_shape {d e : Document} (hd : d.HasDates) (he : e.HasDates)
    (same : d.shape = e.shape) :
    ∃ s t, d.text? = some s ∧ e.text? = some t ∧ Xml.read? s = some (written d.events)
      ∧ Xml.read? t = some (written e.events)
      ∧ tags (written d.events) = tags (written e.events) := by
  refine ⟨_, _, text?_eq hd, text?_eq he, read?_render d.readable_events,
    read?_render e.readable_events, ?_⟩
  rw [tags_written, tags_written, tags_eq_of_shape hd he same]

/-- Two feeds of a dated item each; one title is a word, the other is full of markup. -/
theorem read_of_shape_of_titles :
    let about : FeedMeta := ⟨"i", "t", "l", "en-US", "search", ⟨0, 0⟩⟩
    let feed (title : String) : Document :=
      .rss ⟨about, [.scraped (Sample.webItem "tpb" "1" title)]⟩
    ∃ s t, (feed "A").text? = some s ∧ (feed "</title><item a=\"&lt;\"/>").text? = some t
      ∧ Xml.read? s = some (written (feed "A").events)
      ∧ Xml.read? t = some (written (feed "</title><item a=\"&lt;\"/>").events)
      ∧ tags (written (feed "A").events)
        = tags (written (feed "</title><item a=\"&lt;\"/>").events) := by
  intro about feed
  have dates (title : String) : (feed title).HasDates := by
    intro r hr m hm
    rw [List.mem_singleton.1 hr] at hm
    cases hm
    decide
  exact read_of_shape (dates "A") (dates "</title><item a=\"&lt;\"/>") rfl

/-- Capabilities of one mode each, without categories: a search and a search for films have
different tags. -/
theorem tags_ne_of_functions :
    let caps (function : SearchFunction) : Capabilities := ⟨[⟨function, true, ["q"]⟩], [], .own⟩
    (caps .search).modes.length = (caps .movie).modes.length
      ∧ (caps .search).categories.length = (caps .movie).categories.length
      ∧ (Xml.read? (CapsDocument.render "x" (caps .search))).map tags
        ≠ (Xml.read? (CapsDocument.render "x" (caps .movie))).map tags := by
  intro caps
  have reads (function : SearchFunction) :
      (Xml.read? (CapsDocument.render "x" (caps function))).map tags
        = some (tags (CapsDocument.events "x" (caps function))) := by
    rw [CapsDocument.render, read?_render (CapsDocument.readable_events _ _), Option.map_some,
      tags_written]
  refine ⟨rfl, rfl, ?_⟩
  rw [reads, reads]
  decide

end Document

end TorznabGateway
