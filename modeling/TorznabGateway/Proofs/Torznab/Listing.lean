import TorznabGateway.Proofs.Json.Members
import TorznabGateway.Proofs.Torznab.Markup
import TorznabGateway.Proofs.Torznab.Redaction
import TorznabGateway.Proofs.Xml.Elements

/-!
# One result list in three encodings

RSS, Atom and JSON spell the results of a feed in three ways. A reader for each encoding finds the
identifier, title, link, size, categories and details page of every result where its encoding has
them. The three readers get the same list, and it is the list of the feed.

## Main definitions

* `Listing`: a result as clients of all encodings see it.
* `readListings?`: the results that an encoded feed lists.

## Main statements

* `Feed.readRss?_render`, `Feed.readAtom?_render`, `Feed.readJson?_render`: each encoding is read
  back.
* `Feed.readListings?_encode?`: every encoding lists the results of the feed.
-/
namespace TorznabGateway

open Text Time Xml

/-- A result as clients of all encodings see it. -/
structure Listing where
  id : Uuid
  title : String
  link : String
  size : Nat
  categories : List Nat
  details : Option String
  deriving DecidableEq, Repr

def ResultItem.listing (r : ResultItem) : Listing where
  id := r.uuid
  title := r.item.title
  link := r.item.link
  size := r.item.size
  categories := r.item.categories
  details := r.item.detailsUrl

/-! ## Readers -/

/-- The identifier that is written with hyphens. -/
def Uuid.ofHyphenated? (cs : List Char) : Option Uuid :=
  (Hex.decode? (cs.filter (· ≠ '-'))).map Uuid.mk

/-- The element of a list of one. -/
def only? {α : Type} : List α → Option α
  | [x] => some x
  | _ => none

/-- The element of a list of at most one, if there is one. -/
def atMostOne? {α : Type} : List α → Option (Option α)
  | [] => some none
  | [x] => some (some x)
  | _ => none

def readNatural? (s : String) : Option Nat :=
  Decimal.readNat? s.toList

/-- The result of an RSS item. -/
def readRssItem? (es : List Event) : Option Listing := do
  let guid ← only? (texts "guid" es)
  let id ← Uuid.ofHyphenated? guid.toList
  let title ← only? (texts "title" es)
  let link ← only? (texts "link" es)
  let length ← only? (texts "size" es)
  let size ← readNatural? length
  let categories ← (texts "category" es).mapM readNatural?
  let details ← atMostOne? (texts "comments" es)
  some { id, title, link, size, categories, details }

/-- The results of an RSS document. -/
def readRss? (body : String) : Option (List Listing) := do
  let es ← Xml.read? body
  (contents "item" es).mapM readRssItem?

/-- The attributes of the links with a relation. -/
def relatedLinks (relation : String) (es : List Event) : List (List (String × String)) :=
  (emptyTags "link" es).filter fun attributes => attributes.lookup "rel" = some relation

/-- The identifier that is written as a URN. -/
def Uuid.ofUrn? (s : String) : Option Uuid :=
  (s.toList.dropPrefix? urnScheme).bind ofHyphenated?

/-- The category of a tag. -/
def readTerm? (attributes : List (String × String)) : Option Nat :=
  (attributes.lookup "term").bind readNatural?

/-- The result of an Atom entry. -/
def readAtomItem? (es : List Event) : Option Listing := do
  let urn ← only? (texts "id" es)
  let id ← Uuid.ofUrn? urn
  let title ← only? (texts "title" es)
  let enclosure ← only? (relatedLinks "enclosure" es)
  let link ← enclosure.lookup "href"
  let length ← enclosure.lookup "length"
  let size ← readNatural? length
  let categories ← (emptyTags "category" es).mapM readTerm?
  let alternate ← atMostOne? (relatedLinks "alternate" es)
  let details ← alternate.mapM (·.lookup "href")
  some { id, title, link, size, categories, details }

/-- The results of an Atom document. -/
def readAtom? (body : String) : Option (List Listing) := do
  let es ← Xml.read? body
  (contents "entry" es).mapM readAtomItem?

/-- The value of a literal for a natural number. -/
def Json.toNatural? : Json → Option Nat
  | .number (.integer false n) => some n
  | _ => none

/-- The result of an item in JSON. -/
def readJsonItem? (v : Json) : Option Listing := do
  let text ← (v.get? "id").bind Json.toText?
  let id ← Uuid.ofHyphenated? text.toList
  let title ← (v.get? "title").bind Json.toText?
  let link ← (v.get? "link").bind Json.toText?
  let size ← (v.get? "size").bind Json.toNatural?
  let numbers ← (v.get? "categories").bind Json.toArray?
  let categories ← numbers.mapM Json.toNatural?
  let details ← (v.get? "details_url").mapM Json.toText?
  some { id, title, link, size, categories, details }

/-- The results of a JSON document. -/
def readJson? (body : String) : Option (List Listing) := do
  let v ← Json.parse? (Utf8.encode body)
  let items ← (v.get? "items").bind Json.toArray?
  items.mapM readJsonItem?

/-- The results that an encoded feed lists. -/
def readListings? : FeedFormat → String → Option (List Listing)
  | .xml => readRss?
  | .atom => readAtom?
  | .json => readJson?

/-! ## Identifiers and numbers -/

theorem Text.Hex.ne_hyphen_of_mem {bs : List UInt8} {c : Char} (h : c ∈ Hex.encodeChars bs) :
    c ≠ '-' := by
  have digit : ∀ n < 16, Hex.digit n ≠ '-' := by decide
  induction bs with
  | nil => cases h
  | cons b bs ih =>
    rw [Hex.encodeChars, List.mem_cons, List.mem_cons] at h
    rcases h with rfl | rfl | h
    · exact digit _ (by have := b.toNat_lt; omega)
    · exact digit _ (by omega)
    · exact ih h

/-- An identifier is read back. -/
theorem Uuid.ofHyphenated?_chars (u : Uuid) : Uuid.ofHyphenated? u.chars = some u := by
  have cut (m : Nat) : ((Hex.encodeChars u.bytes).drop m).take 4
      ++ (Hex.encodeChars u.bytes).drop (m + 4) = (Hex.encodeChars u.bytes).drop m := by
    rw [← List.drop_drop, List.take_append_drop]
  have groups : u.chars.filter (· ≠ '-') = (Hex.encodeChars u.bytes).filter (· ≠ '-') := by
    conv_rhs =>
      rw [← List.take_append_drop 8 (Hex.encodeChars u.bytes), ← cut 8, ← cut 12, ← cut 16]
    simp [chars]
  have digits : (Hex.encodeChars u.bytes).filter (· ≠ '-') = Hex.encodeChars u.bytes :=
    List.filter_eq_self.2 fun c hc => decide_eq_true (Hex.ne_hyphen_of_mem hc)
  rw [ofHyphenated?, groups, digits, Hex.decode?_encodeChars, Option.map_some]

theorem Uuid.ofHyphenated?_render (u : Uuid) : Uuid.ofHyphenated? u.render.toList = some u := by
  rw [render, String.toList_ofList, ofHyphenated?_chars]

theorem Uuid.ofUrn?_render (u : Uuid) : Uuid.ofUrn? ("urn:uuid:" ++ u.render) = some u := by
  have scheme : ("urn:uuid:" ++ u.render).toList.dropPrefix? urnScheme = some u.render.toList := by
    rw [String.toList_append]
    exact List.dropPrefix?_append_of_beq _ (by decide)
  rw [ofUrn?, scheme, Option.bind_some, ofHyphenated?_render]

theorem readNatural?_render (n : Nat) : readNatural? (Decimal.render n) = some n := by
  rw [readNatural?, Decimal.render, String.toList_ofList, Decimal.readNat?_digits]

theorem mapM_readNatural? (ns : List Nat) :
    ns.mapM (readNatural? ∘ Decimal.render) = some ns :=
  (mapM_eq_some fun n _ => readNatural?_render n).trans (congrArg some (List.map_id' ns))

theorem mapM_readTerm? (ns : List Nat) :
    ns.mapM (readTerm? ∘ fun n => [("term", Decimal.render n)]) = some ns :=
  (mapM_eq_some fun n _ => readNatural?_render n).trans (congrArg some (List.map_id' ns))

theorem mapM_href (url : Option String) :
    (url.map fun url => [("href", url), ("rel", "alternate")]).mapM (·.lookup "href")
      = some url := by
  cases url <;> rfl

@[simp] theorem only?_singleton {α : Type} (x : α) : only? [x] = some x := rfl

@[simp] theorem atMostOne?_toList {α : Type} (x : Option α) : atMostOne? x.toList = some x := by
  cases x <;> rfl

/-! ## RSS -/

namespace Feed

variable {f : Feed}

theorem bound?_optionalAttribute {name : String} {value : Option String} :
    ∀ e ∈ optionalAttribute name value, e.bound? = none := by
  cases value <;> simp [optionalAttribute, torznabAttribute, Event.bound?]

/-- Behind the elements of an RSS item there are only tags without content. -/
theorem exists_rssItem (r : ResultItem) (date : Option String) : ∃ marks,
    rssItem r date = Xml.element "item" []
      (textElement "title" r.item.title ++ (textElement "guid" r.uuid.render
        ++ (textElement "link" r.item.link ++ (optionalElement "comments" r.item.detailsUrl
        ++ (optionalElement "pubDate" date ++ (textElement "size" (Decimal.render r.item.size)
        ++ (r.item.categories.flatMap (fun c => textElement "category" (Decimal.render c))
        ++ marks)))))))
      ∧ ∀ e ∈ marks, e.bound? = none := by
  refine ⟨?marks, congrArg (Xml.element "item" []) ?shape, ?only⟩
  case shape =>
    simp only [List.append_assoc]
    rfl
  case only =>
    have enclosure : ∀ e ∈ (if r.item.link.isEmpty then [] else
        [.empty "enclosure" [("url", r.item.link), ("length", Decimal.render r.item.size),
          ("type", torrentType)]]), Event.bound? e = none := by
      split <;> simp [Event.bound?]
    simp only [List.forall_mem_append, List.forall_mem_map]
    refine ⟨enclosure, fun c _ => rfl, ?_, bound?_optionalAttribute, bound?_optionalAttribute,
      bound?_optionalAttribute, bound?_optionalAttribute⟩
    simp [torznabAttribute, Event.bound?]

theorem readRssItem?_written (es : List Event) :
    readRssItem? (written es) = readRssItem? es := by
  simp only [readRssItem?, texts_written]

/-- An RSS item is read as its result. -/
theorem readRssItem?_rssItem (r : ResultItem) (date : Option String) : ∃ attributes body,
    rssItem r date = Xml.element "item" attributes body ∧ Lacks "item" body
      ∧ readRssItem? (written body) = some r.listing := by
  obtain ⟨marks, shape, only⟩ := exists_rssItem r date
  refine ⟨_, _, shape, ?_, ?_⟩
  · repeat' apply Lacks.append
    exacts [lacks_textElement (by decide) _, lacks_textElement (by decide) _,
      lacks_textElement (by decide) _, lacks_optionalElement (by decide) _,
      lacks_optionalElement (by decide) _, lacks_textElement (by decide) _,
      .flatMap fun c => lacks_textElement (by decide) _, lacks_of_forall only]
  · have nothing (name : String) : texts name marks = [] := texts_of_lacks (lacks_of_forall only)
    rw [readRssItem?_written, readRssItem?]
    simp only [texts_textElement_append, texts_optionalElement_append, texts_flatMap_textElement,
      nothing]
    simp [only?_singleton, atMostOne?_toList, Uuid.ofHyphenated?_render, readNatural?_render,
      mapM_readNatural?, ResultItem.listing]

/-- What a reader of single items reads from an RSS document. -/
theorem mapM_contents_rss {α : Type} {read : List Event → Option α} {out : ResultItem → α}
    (h : ∀ r date, ∃ attributes body, rssItem r date = Xml.element "item" attributes body
      ∧ Lacks "item" body ∧ read (written body) = some (out r)) (f : Feed) :
    (contents "item" (written f.rssEvents)).mapM read = some (f.items.map out) := by
  have shape : f.rssEvents = (.declaration :: .start "rss" [("version", "2.0"),
        ("xmlns:atom", "http://www.w3.org/2005/Atom"),
        ("xmlns:torznab", "http://torznab.com/schemas/2015/feed")]
      :: .start "channel" [] :: rssHead f.about)
      ++ (f.items.flatMap (fun r => rssItem r (rssDate r.item))
        ++ [.finish "channel", .finish "rss"]) := by
    simp [rssEvents, Xml.element]
  rw [shape]
  refine mapM_contents_written (fun r _ => h r _) ?_ ?_
  · simp [Lacks, rssHead, textElement, Event.bound?]
  · decide

/-- The items of the RSS form are the results of the feed. -/
theorem readRss?_render (f : Feed) :
    readRss? (Xml.render f.rssEvents) = some (f.items.map ResultItem.listing) := by
  rw [readRss?, read?_render (readable_rssEvents f), Option.bind_eq_bind, Option.bind_some]
  exact mapM_contents_rss readRssItem?_rssItem f

/-! ## Atom -/

theorem readAtomItem?_written (es : List Event) :
    readAtomItem? (written es) = readAtomItem? es := by
  simp only [readAtomItem?, relatedLinks, texts_written, emptyTags_written]

/-- Behind the elements of an Atom entry there are the links and categories. -/
theorem exists_atomEntry (built : Moment) (r : ResultItem) : ∃ tags,
    atomEntry built r = Xml.element "entry" []
      (textElement "id" ("urn:uuid:" ++ r.uuid.render) ++ (textElement "title" r.item.title
        ++ (textElement "updated" (Rfc3339.renderOffset (r.item.publishDate.getD built)) ++ tags)))
      ∧ (∀ e ∈ tags, e.bound? = none)
      ∧ relatedLinks "enclosure" tags = [[("href", r.item.link), ("rel", "enclosure"),
          ("type", torrentType), ("length", Decimal.render r.item.size)]]
      ∧ relatedLinks "alternate" tags
        = (r.item.detailsUrl.map fun url => [("href", url), ("rel", "alternate")]).toList
      ∧ emptyTags "category" tags
        = r.item.categories.map fun c => [("term", Decimal.render c)] := by
  refine ⟨?tags, congrArg (Xml.element "entry" []) ?shape, ?only, ?enclosure, ?alternate,
    ?categories⟩
  case shape =>
    simp only [List.append_assoc]
    rfl
  case only =>
    simp only [List.forall_mem_append, List.forall_mem_map]
    refine ⟨by simp [Event.bound?], ?_, fun c _ => rfl⟩
    split <;> simp [Event.bound?]
  case enclosure => cases r.item.detailsUrl <;> simp [relatedLinks, List.lookup_cons]
  case alternate => cases r.item.detailsUrl <;> simp [relatedLinks, List.lookup_cons]
  case categories => cases r.item.detailsUrl <;> simp

/-- An Atom entry is read as its result. -/
theorem readAtomItem?_atomEntry (built : Moment) (r : ResultItem) : ∃ attributes body,
    atomEntry built r = Xml.element "entry" attributes body ∧ Lacks "entry" body
      ∧ readAtomItem? (written body) = some r.listing := by
  obtain ⟨tags, shape, only, enclosure, alternate, categories⟩ := exists_atomEntry built r
  refine ⟨_, _, shape, ?_, ?_⟩
  · repeat' apply Lacks.append
    exacts [lacks_textElement (by decide) _, lacks_textElement (by decide) _,
      lacks_textElement (by decide) _, lacks_of_forall only]
  · have nothing (name : String) : texts name tags = [] := texts_of_lacks (lacks_of_forall only)
    have links (relation : String) (es : List Event) (n s : String) :
        relatedLinks relation (textElement n s ++ es) = relatedLinks relation es := by
      simp [relatedLinks]
    rw [readAtomItem?_written, readAtomItem?]
    simp only [links, enclosure, alternate, categories, texts_textElement_append, emptyTags_append,
      emptyTags_textElement, nothing]
    simp [Uuid.ofUrn?_render, readNatural?_render, mapM_readTerm?, mapM_href, List.lookup_cons,
      ResultItem.listing]

/-- The entries of the Atom form are the results of the feed. -/
theorem readAtom?_render (f : Feed) :
    readAtom? (Xml.render f.atom) = some (f.items.map ResultItem.listing) := by
  have shape : f.atom = (.declaration :: .start "feed" [("xmlns", "http://www.w3.org/2005/Atom")]
      :: (textElement "id" f.about.id ++ textElement "title" f.about.title
        ++ textElement "updated" (Rfc3339.renderOffset f.about.updated)
        ++ [.empty "link" [("href", f.about.link), ("rel", "self")],
          .empty "category" [("term", f.about.category)]]))
      ++ (f.items.flatMap (atomEntry f.about.updated) ++ [.finish "feed"]) := by
    simp [atom, Xml.element]
  rw [readAtom?, read?_render (readable_atom f), shape, Option.bind_eq_bind, Option.bind_some]
  refine mapM_contents_written (fun r _ => readAtomItem?_atomEntry _ r) ?_ ?_
  · simp [Lacks, textElement, Event.bound?]
  · decide

end Feed

/-! ## JSON -/

namespace Json

@[simp] theorem lookup?_optionMember (name k : String) (v : Option Json) :
    lookup? name (optionMember k v) = if k = name then v else none := by
  cases v <;> simp [optionMember]

theorem toNatural?_ofNat (n : Nat) : toNatural? (ofNat n) = some n := rfl

theorem mapM_toNatural? (ns : List Nat) : ns.mapM (toNatural? ∘ ofNat) = some ns :=
  (mapM_eq_some fun n _ => toNatural?_ofNat n).trans (congrArg some (List.map_id' ns))

end Json

namespace Feed

/-- An item in JSON is read as its result. -/
theorem readJsonItem?_jsonItem (r : ResultItem) : readJsonItem? (jsonItem r) = some r.listing := by
  have details (url : Option String) : (url.map Json.Tree.text).mapM Json.toText? = some url := by
    cases url <;> rfl
  simp [readJsonItem?, jsonItem, Json.get?, Json.toText?, Json.toArray?, Json.toNatural?_ofNat,
    Json.mapM_toNatural?, details, Uuid.ofHyphenated?_render, ResultItem.listing]

/-- The items of the JSON form are the results of the feed. -/
theorem readJson?_render (f : Feed) :
    readJson? f.json.render = some (f.items.map ResultItem.listing) := by
  have parsed : Json.parse? (Utf8.encode f.json.render) = some f.json := by
    rw [Utf8.encode, Json.render, String.toList_ofList, Json.parse?_chars (integral_json f)]
  have items : f.json.get? "items" = some (.array (f.items.map jsonItem)) := by
    simp [json, Json.get?]
  rw [readJson?, parsed]
  simp only [Option.bind_eq_bind, Option.bind_some, items, Json.toArray?, List.mapM_map]
  exact mapM_eq_some fun r _ => readJsonItem?_jsonItem r

/-! ## All encodings -/

/-- Every encoding of a feed whose dates can be written lists exactly the results of the feed, in
their order. -/
theorem readListings?_encode? {f : Feed} (h : f.HasRssDates) (format : FeedFormat) :
    ∃ e, f.encode? format = some e
      ∧ readListings? format e.body = some (f.items.map ResultItem.listing) := by
  cases format with
  | xml =>
    have encoded : f.encode? .xml
        = some ⟨"application/rss+xml; charset=utf-8", Xml.render f.rssEvents⟩ := by
      rw [encode?, rss?_of_hasRssDates h, Option.map_some]
    exact ⟨_, encoded, readRss?_render f⟩
  | atom =>
    have encoded : f.encode? .atom
        = some ⟨"application/atom+xml; charset=utf-8", Xml.render f.atom⟩ := rfl
    exact ⟨_, encoded, readAtom?_render f⟩
  | json =>
    have encoded : f.encode? .json = some ⟨"application/json", f.json.render⟩ := rfl
    exact ⟨_, encoded, readJson?_render f⟩

/-- A feed of two results, with a link on the web and with a magnet link. -/
theorem readListings?_encode?_of_samples :
    let f : Feed := ⟨⟨"i", "t", "l", "en-US", "search", ⟨0, 0⟩⟩,
      [.scraped (Sample.webItem "tpb" "1" "A & B"), .scraped (Sample.magnetItem "tpb" "2" "C")]⟩
    f.HasRssDates ∧ ∀ format, ∃ e, f.encode? format = some e
      ∧ readListings? format e.body = some (f.items.map ResultItem.listing) := by
  intro f
  have dates : f.HasRssDates := by decide
  exact ⟨dates, readListings?_encode? dates⟩

end Feed

end TorznabGateway
