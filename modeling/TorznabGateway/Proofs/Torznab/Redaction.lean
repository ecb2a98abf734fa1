import TorznabGateway.Proofs.Download.Masking
import TorznabGateway.Torznab.FeedDocument

/-!
# Redacted documents

A document is redacted by masking the tokens of its download links and, in JSON, by leaving out the
states of items. Entries that differ in their links only, and in fingerprints and states, have the
same redacted documents. This goes part by part: alike links make alike elements, attributes and
members, and these make alike documents.

## Main definitions

* `ResultItem.SameButLink`: entries that differ in links that are alike.
* `Feed.redacted`: a redacted document.

## Main statements

* `Feed.alike_rss?`, `Feed.alike_atom`, `Feed.alike_json`: the three forms of two feeds are alike.
* `Feed.redacted_encode?_eq`: the redacted documents of two feeds are the same.
-/
namespace TorznabGateway

open Text Time Encoding DownloadToken

/-! ## Spellings in documents -/

theorem keepsPaths_of_ascii {spell : Char → List Char}
    (h : ∀ n < 0x80, Base64Url.IsUrlSafe (.ofNat n) → spell (.ofNat n) = [.ofNat n])
    (dot : spell '.' = ['.']) (slash : spell '/' = ['/']) : KeepsPaths spell := by
  rintro c (safe | rfl | rfl)
  · have one := h c.toNat safe.toNat_lt
    rw [Char.ofNat_toNat] at one
    exact one safe
  · exact dot
  · exact slash

theorem Xml.keepsPaths_escapeChar : KeepsPaths Xml.escapeChar :=
  keepsPaths_of_ascii (by decide) (by decide) (by decide)

theorem Json.Quoted.keepsPaths_escapeChar : KeepsPaths Json.Quoted.escapeChar :=
  keepsPaths_of_ascii (by decide) (by decide) (by decide)

namespace Json

/-- A member of an object as it is written. -/
def memberChars (m : String × Json) : List Char :=
  quoted m.1 ++ ':' :: chars m.2

theorem itemsChars_eq_joinWith (vs : List Json) :
    itemsChars vs = joinWith [','] (vs.map chars) := by
  induction vs with
  | nil => rfl
  | cons v vs ih =>
    cases vs with
    | nil => rfl
    | cons w vs => simp [itemsChars, joinWith, ih]

theorem membersChars_eq_joinWith (ms : List (String × Json)) :
    membersChars ms = joinWith [','] (ms.map memberChars) := by
  induction ms with
  | nil => rfl
  | cons m ms ih =>
    cases ms with
    | nil => rfl
    | cons n ms => simp [membersChars, joinWith, memberChars, ih]

end Json

/-! ## Entries that differ in their link -/

/-- Whether two entries differ in their links only, and their links are alike in every spelling that
keeps the characters of tokens and the slash. -/
structure ResultItem.SameButLink (secret : SharedSecret) (r s : ResultItem) : Prop where
  uuid : r.uuid = s.uuid
  item : r.item.unlinked = s.item.unlinked
  left : r.item.link ≠ ""
  right : s.item.link ≠ ""
  link : ∀ spell, KeepsPaths spell →
    Alike secret (r.item.link.toList.flatMap spell) (s.item.link.toList.flatMap spell)

variable {secret : SharedSecret}

/-- The other entry has the same item but for a link and a source link. -/
theorem ResultItem.SameButLink.exists_link {r s : ResultItem} (h : r.SameButLink secret s) :
    ∃ link sourceLink, s.item = { r.item with link, sourceLink } ∧ link ≠ ""
      ∧ ∀ spell, KeepsPaths spell →
        Alike secret (r.item.link.toList.flatMap spell) (link.toList.flatMap spell) :=
  ⟨s.item.link, s.item.sourceLink, Item.eq_of_unlinked h.item, h.right, h.link⟩

theorem LinkIssuer.issue_link_ne {publicUrl : String} {i : Item} (h : i.Concealable) :
    ((LinkIssuer.new publicUrl secret).issue i).1.link ≠ "" := by
  rw [issue_fst h.link h.web]
  intro empty
  have chars := congrArg String.toList empty
  simp [Route.downloadPath] at chars

theorem TrackedItem.IssuedAlike.sameButLink {publicUrl : String} {t u : TrackedItem}
    (h : t.IssuedAlike (.new publicUrl secret) u) :
    ResultItem.SameButLink secret (.tracked t) (.tracked u) := by
  obtain ⟨uuid, i, j, same, ti, uj⟩ := h
  have unlinked {k : Item} (h : k.Concealable) :
      ((LinkIssuer.new publicUrl secret).issue k).1.unlinked = k.unlinked := by
    rw [LinkIssuer.issue_fst h.link h.web]
    rfl
  constructor
  case uuid => exact uuid
  case item =>
    change t.item.unlinked = u.item.unlinked
    rw [ti, uj, unlinked same.left, unlinked same.right, same.unlinked]
  case left =>
    change t.item.link ≠ ""
    exact ti ▸ LinkIssuer.issue_link_ne same.left
  case right =>
    change u.item.link ≠ ""
    exact uj ▸ LinkIssuer.issue_link_ne same.right
  case link =>
    intro spell keeps
    change Alike secret (t.item.link.toList.flatMap spell) (u.item.link.toList.flatMap spell)
    rw [ti, uj]
    exact LinkIssuer.alike_issue same keeps

namespace Feed

/-! ## XML documents -/

/-- Whether two parts of a document are alike. -/
def AlikeEvents (secret : SharedSecret) (es es' : List Xml.Event) : Prop :=
  Alike secret (es.flatMap Xml.Event.chars) (es'.flatMap Xml.Event.chars)

namespace AlikeEvents

variable {es es' fs fs' : List Xml.Event}

theorem refl (es : List Xml.Event) : AlikeEvents secret es es :=
  Alike.refl _

theorem append (h : AlikeEvents secret es es') (h' : AlikeEvents secret fs fs') :
    AlikeEvents secret (es ++ fs) (es' ++ fs') := by
  rw [AlikeEvents, List.flatMap_append, List.flatMap_append]
  exact Alike.append h h'

theorem behind (es : List Xml.Event) (h : AlikeEvents secret fs fs') :
    AlikeEvents secret (es ++ fs) (es ++ fs') :=
  (refl es).append h

theorem element (name : String) (attributes : List (String × String))
    (h : AlikeEvents secret es es') :
    AlikeEvents secret (Xml.element name attributes es) (Xml.element name attributes es') :=
  (h.append (refl [.finish name])).behind [.start name attributes]

theorem textElement (name : String) {a b : String}
    (h : Alike secret (Xml.escape a) (Xml.escape b)) :
    AlikeEvents secret (Xml.textElement name a) (Xml.textElement name b) :=
  (h.append (.refl _)).behind (Xml.Event.chars (.start name []))

/-- A tag may differ in its first attribute. -/
theorem empty (name key : String) (attributes : List (String × String)) {a b : String}
    (h : Alike secret (Xml.escape a) (Xml.escape b)) :
    AlikeEvents secret [.empty name ((key, a) :: attributes)]
      [.empty name ((key, b) :: attributes)] := by
  have pieces (value : String) : Xml.Event.chars (.empty name ((key, value) :: attributes))
      = ('<' :: name.toList ++ ' ' :: key.toList ++ ['=', '"'])
        ++ (Xml.escape value ++ ('"' :: attributes.flatMap Xml.attributeChars ++ ['/', '>'])) := by
    change '<' :: Xml.tagChars name ((key, value) :: attributes) ++ ['/', '>'] = _
    simp only [Xml.tagChars, Xml.attributeChars, List.flatMap_cons, List.cons_append,
      List.append_assoc, List.nil_append]
  rw [AlikeEvents, List.flatMap_singleton, List.flatMap_singleton, pieces, pieces]
  exact (h.append (.refl _)).behind _

end AlikeEvents

variable {r s : ResultItem}

theorem alike_rssItem (h : r.SameButLink secret s) (pubDate : Option String) :
    AlikeEvents secret (rssItem r pubDate) (rssItem s pubDate) := by
  obtain ⟨link, sourceLink, hs, some_link, spelled⟩ := h.exists_link
  have left : r.item.link.isEmpty = false := by simpa using h.left
  have right : link.isEmpty = false := by simpa using some_link
  have alike := spelled Xml.escapeChar Xml.keepsPaths_escapeChar
  rw [rssItem, rssItem, hs, ← h.uuid]
  dsimp only
  rw [left, right]
  simp only [Bool.false_eq_true, if_false, List.append_assoc]
  refine .element _ _ (.behind _ (.behind _ (.append (.textElement _ alike) ?_)))
  refine .behind _ (.behind _ (.behind _ (.behind _ (.append (.empty _ _ _ alike) (.refl _)))))

/-- The RSS forms of two lists of entries: both are refused, or they are alike. -/
theorem alike_mapM_rssItem? {rs ss : List ResultItem}
    (h : List.Forall₂ (ResultItem.SameButLink secret) rs ss) :
    Option.Rel (fun es es' => AlikeEvents secret es.flatten es'.flatten) (rs.mapM rssItem?)
      (ss.mapM rssItem?) := by
  induction h with
  | nil => exact .some (.refl _)
  | @cons r s rs ss same _ ih =>
    have date : pubDate? r.item = pubDate? s.item := by
      have published : r.item.publishDate = s.item.publishDate :=
        (congrArg Item.publishDate same.item :)
      rw [pubDate?, pubDate?, published]
    rw [List.mapM_cons, List.mapM_cons, rssItem?, rssItem?, ← date]
    generalize rs.mapM rssItem? = left, ss.mapM rssItem? = right at ih
    cases pubDate? r.item with
    | none => exact .none
    | some pubDate =>
      cases ih with
      | none => exact .none
      | some rest => exact .some ((alike_rssItem same pubDate).append rest)

theorem alike_rss? {about : FeedMeta} {rs ss : List ResultItem}
    (h : List.Forall₂ (ResultItem.SameButLink secret) rs ss) :
    Option.Rel (AlikeEvents secret) (rss? ⟨about, rs⟩) (rss? ⟨about, ss⟩) := by
  rw [rss?, rss?]
  have items := alike_mapM_rssItem? h
  dsimp only
  generalize rs.mapM rssItem? = left, ss.mapM rssItem? = right at items
  cases items with
  | none => exact .none
  | some items => exact .some ((((items.behind _).element _ _).element _ _).behind [.declaration])

theorem alike_atomEntry (h : r.SameButLink secret s) (built : Moment) :
    AlikeEvents secret (atomEntry built r) (atomEntry built s) := by
  obtain ⟨link, sourceLink, hs, -, spelled⟩ := h.exists_link
  have alike := spelled Xml.escapeChar Xml.keepsPaths_escapeChar
  rw [atomEntry, atomEntry, hs, ← h.uuid]
  dsimp only
  simp only [List.append_assoc]
  refine .element _ _ (.behind _ (.behind _ (.behind _ (.append (.empty _ _ _ alike) (.refl _)))))

theorem alike_atom {about : FeedMeta} {rs ss : List ResultItem}
    (h : List.Forall₂ (ResultItem.SameButLink secret) rs ss) :
    AlikeEvents secret (atom ⟨about, rs⟩) (atom ⟨about, ss⟩) := by
  have entries : AlikeEvents secret (rs.flatMap (atomEntry about.updated))
      (ss.flatMap (atomEntry about.updated)) := by
    induction h with
    | nil => exact .refl _
    | cons same _ ih => exact (alike_atomEntry same about.updated).append ih
  exact ((entries.behind _).element _ _).behind [.declaration]

/-! ## JSON documents -/

/-- Lists of alike parts are alike when they are joined. -/
theorem alike_joinWith (separator : List Char) {xs ys : List (List Char)}
    (h : List.Forall₂ (Alike secret) xs ys) :
    Alike secret (joinWith separator xs) (joinWith separator ys) := by
  induction h with
  | nil => rfl
  | cons first rest ih =>
    cases rest with
    | nil => exact first
    | cons second rest => exact (first.append (.refl separator)).append ih

theorem alike_array {vs ws : List Json}
    (h : List.Forall₂ (fun v w => Alike secret (Json.chars v) (Json.chars w)) vs ws) :
    Alike secret (Json.chars (.array vs)) (Json.chars (.array ws)) := by
  rw [Json.chars, Json.chars, Json.itemsChars_eq_joinWith,
    Json.itemsChars_eq_joinWith]
  have items : List.Forall₂ (Alike secret) (vs.map Json.chars) (ws.map Json.chars) := by
    rwa [List.forall₂_map_left_iff, List.forall₂_map_right_iff]
  exact ((alike_joinWith [','] items).append (.refl [']'])).behind ['[']

/-- Objects that differ in one member are alike if its values are. -/
theorem alike_object {v w : Json} (h : Alike secret (Json.chars v) (Json.chars w)) (name : String)
    (before after : List (String × Json)) :
    Alike secret (Json.chars (.object (before ++ (name, v) :: after)))
      (Json.chars (.object (before ++ (name, w) :: after))) := by
  rw [Json.chars, Json.chars, Json.membersChars_eq_joinWith, Json.membersChars_eq_joinWith,
    List.map_append, List.map_append, List.map_cons, List.map_cons]
  have same (ms : List (String × Json)) :
      List.Forall₂ (Alike secret) (ms.map Json.memberChars) (ms.map Json.memberChars) :=
    List.forall₂_same.2 fun _ _ => .refl _
  have member : Alike secret (Json.memberChars (name, v)) (Json.memberChars (name, w)) :=
    (h.behind [':']).behind (Json.quoted name)
  have members := List.rel_append (same before) (.cons member (same after))
  exact ((alike_joinWith [','] members).append (.refl ['\x7d'])).behind ['\x7b']

/-- An item of a feed without the member that tells its state. -/
def withoutState : Json → Json
  | .object members => .object (members.filter (·.1 != "state"))
  | v => v

/-- A feed whose items do not tell their states. -/
def withoutStates : Json → Json
  | .object members => .object (members.map fun
    | ("items", .array items) => ("items", .array (items.map withoutState))
    | m => m)
  | v => v

theorem withoutStates_json (f : Feed) :
    withoutStates f.json = .object
      [("id", .text f.about.id), ("title", .text f.about.title), ("link", .text f.about.link),
       ("language", .text f.about.language), ("category", .text f.about.category),
       ("items", .array ((f.items.map jsonItem).map withoutState))] := by
  rfl

theorem integral_jsonItem (r : ResultItem) : Json.Integral (jsonItem r) := by
  have categories : Json.IntegralItems (r.item.categories.map Json.ofNat : List Json) :=
    Json.integralItems_map fun _ _ => trivial
  simp only [jsonItem, Json.Integral, Json.integralMembers_append]
  refine ⟨⟨⟨⟨⟨⟨⟨⟨?heading, ?date⟩, ?counts⟩, ?hash⟩, ?magnet⟩, ?details⟩, ?imdb⟩, ?tmdb⟩, ?state⟩
  case heading => exact ⟨trivial, trivial, trivial, trivial, trivial⟩
  case counts => exact ⟨trivial, trivial, trivial, categories, trivial⟩
  all_goals
    refine Json.integralMembers_optionMember (fun _ => ?_) _ _
    trivial

theorem integral_json (f : Feed) : Json.Integral f.json := by
  have items : Json.IntegralItems (f.items.map jsonItem) :=
    Json.integralItems_map fun r _ => integral_jsonItem r
  exact ⟨trivial, trivial, trivial, trivial, trivial, items, trivial⟩

theorem alike_jsonItem (h : r.SameButLink secret s) :
    Alike secret (Json.chars (withoutState (jsonItem r)))
      (Json.chars (withoutState (jsonItem s))) := by
  obtain ⟨link, sourceLink, hs, -, spelled⟩ := h.exists_link
  have alike := spelled Json.Quoted.escapeChar Json.Quoted.keepsPaths_escapeChar
  have state (x : Option Json) : (Json.optionMember "state" x).filter (·.1 != "state") = [] := by
    cases x <;> rfl
  have text : Alike secret (Json.chars (.text r.item.link)) (Json.chars (.text link)) :=
    (alike.append (.refl ['"'])).behind ['"']
  have head (id title link site : Json) :
      [("id", id), ("title", title), ("link", link), ("site", site)].filter (·.1 != "state")
        = [("id", id), ("title", title)] ++ ("link", link) :: [("site", site)] := rfl
  rw [jsonItem, jsonItem, hs, ← h.uuid]
  dsimp only [withoutState]
  simp only [List.filter_append, state, head, List.append_assoc]
  exact alike_object text "link" _ _

theorem alike_json {about : FeedMeta} {rs ss : List ResultItem}
    (h : List.Forall₂ (ResultItem.SameButLink secret) rs ss) :
    Alike secret (Json.chars (withoutStates (json ⟨about, rs⟩)))
      (Json.chars (withoutStates (json ⟨about, ss⟩))) := by
  have items : List.Forall₂ (fun v w => Alike secret (Json.chars v) (Json.chars w))
      ((rs.map jsonItem).map withoutState) ((ss.map jsonItem).map withoutState) := by
    simp only [List.forall₂_map_left_iff, List.forall₂_map_right_iff]
    exact h.imp fun _ _ => alike_jsonItem
  rw [withoutStates_json, withoutStates_json]
  exact alike_object (alike_array items) "items" [_, _, _, _, _] []

/-! ## Redaction -/

/-- A text with the tokens of its download links masked. -/
def maskText (secret : SharedSecret) (s : String) : String :=
  .ofList (maskTokens secret s.toList)

/-- The JSON form of a feed without the states of its items. A text that is not JSON stays. -/
def bodyWithoutStates (body : String) : String :=
  match Json.parse? (Utf8.encode body) with
  | some v => (withoutStates v).render
  | none => body

/-- A document with the tokens of its download links masked and, in JSON, without the states of its
items. -/
def redacted (secret : SharedSecret) (format : FeedFormat) (e : EncodedFeed) : EncodedFeed :=
  match format with
  | .json => { e with body := maskText secret (bodyWithoutStates e.body) }
  | .xml | .atom => { e with body := maskText secret e.body }

theorem bodyWithoutStates_json (f : Feed) :
    bodyWithoutStates f.json.render = (withoutStates f.json).render := by
  rw [bodyWithoutStates, Json.render, Utf8.encode, String.toList_ofList,
    Json.parse?_chars (integral_json f)]

theorem maskText_ofList {cs ds : List Char} (h : Alike secret cs ds) :
    maskText secret (.ofList cs) = maskText secret (.ofList ds) := by
  rw [maskText, maskText, String.toList_ofList, String.toList_ofList, h.maskTokens_eq]

/-- Feeds whose entries differ in their links only have the same redacted documents. -/
theorem redacted_encode?_eq {about : FeedMeta} {rs ss : List ResultItem}
    (h : List.Forall₂ (ResultItem.SameButLink secret) rs ss) (format : FeedFormat) :
    (encode? ⟨about, rs⟩ format).map (redacted secret format)
      = (encode? ⟨about, ss⟩ format).map (redacted secret format) := by
  cases format with
  | xml =>
    have events : Option.Rel (AlikeEvents secret) (rss? ⟨about, rs⟩) (rss? ⟨about, ss⟩) :=
      alike_rss? h
    rw [encode?, encode?]
    generalize rss? ⟨about, rs⟩ = left, rss? ⟨about, ss⟩ = right at events
    cases events with
    | none => rfl
    | some events =>
      simp only [Option.map_some, redacted, Xml.render]
      rw [maskText_ofList events]
  | atom =>
    simp only [encode?, Option.map_some, redacted, Xml.render]
    rw [maskText_ofList (alike_atom h)]
  | json =>
    simp only [encode?, Option.map_some, redacted, bodyWithoutStates_json]
    rw [Json.render, Json.render, maskText_ofList (alike_json h)]

end Feed

end TorznabGateway
