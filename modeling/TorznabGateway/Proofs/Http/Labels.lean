import TorznabGateway.Proofs.Http.Matching

/-!
# Labels of paths

The label of a path is found without the patterns of the routes. The two descriptions of the paths
that are served agree, but for the paths of downloads whose last segment is missing or empty: they
are counted as downloads, and no route serves them.

## Main definitions

* `Route.Nameless`: the path of a download without the name of a file.

## Main statements

* `Route.label_of_serves`, `Route.label_of_nameless`: the labels of paths that are counted.
* `Route.label_eq_iff`: which paths have which label.
-/
namespace TorznabGateway

open Text

namespace Route

/-- Whether the paths of a route are those of downloads and start with a segment. -/
def IsDownload (r : Route) (start : String) : Prop :=
  r.pattern = [.literal start, .placeholder "token", .placeholder "filename"]

/-- Whether a path starts as the paths of downloads do, and the name of the file is missing or
empty. -/
def Nameless (r : Route) (path : String) : Prop :=
  ∃ start token, r.IsDownload start ∧ token ≠ []
    ∧ (segments? path = some [start.toList, token]
      ∨ segments? path = some [start.toList, token, []])

/-! ## Paths and templates -/

/-- A path is its segments, each behind a slash. -/
theorem toList_of_segments? {path : String} {segments : List (List Char)}
    (h : segments? path = some segments) : path.toList = '/' :: joinWith ['/'] segments := by
  unfold segments? at h
  split at h
  · next rest text => rw [text, ← Option.some.inj h, joinWith_splitOn]
  · simp at h

theorem segments?_inj {a b : String} {segments : List (List Char)}
    (ha : segments? a = some segments) (hb : segments? b = some segments) : a = b := by
  rw [← String.toList_inj, toList_of_segments? ha, toList_of_segments? hb]

theorem template_injective {r s : Route} (h : r.template = s.template) : r = s := by
  have apart : ∀ r ∈ all, ∀ s ∈ all, r.template = s.template → r = s := by decide +kernel
  exact apart r (mem_all r) s (mem_all s) h

theorem template_ne_otherLabel (r : Route) : r.template ≠ otherLabel := by
  cases r <;> decide +kernel

/-! ## Labels -/

section

variable {r : Route} {path start : String} {segments : List (List Char)}

theorem label_of_segments? (cut : segments? path = some segments) (longer : segments.length ≠ 1) :
    label path = labelOf segments := by
  have single : ∀ p ∈ plainPaths, (segments? p).map List.length = some 1 := by decide
  have other : path ∉ plainPaths := by
    intro listed
    have one := single path listed
    rw [cut, Option.map_some, Option.some.injEq] at one
    exact longer one
  rw [label, if_neg other, cut]

theorem label_of_mem_plainPaths (h : path ∈ plainPaths) : label path = path :=
  if_pos h

/-- A route without placeholders serves its template only. -/
theorem label_of_literal {text : String} (literal : r.pattern = [.literal text])
    (h : r.Matches path) : label path = r.template := by
  have listed : ∀ r ∈ all, r.pattern.length = 1 → r.template ∈ plainPaths
      ∧ segments? r.template = some (r.pattern.map fun part => (segmentText part).toList) := by
    decide +kernel
  obtain ⟨plain, written⟩ := listed r (mem_all r) (by simp [literal])
  obtain ⟨segments, cut, fits⟩ := h
  obtain rfl : segments = [text.toList] := by
    simpa [literal, Segment.Fits, List.forall₂_cons_left_iff] using fits
  obtain rfl : path = r.template := segments?_inj cut (by rw [written, literal]; rfl)
  exact label_of_mem_plainPaths plain

theorem serves_of_mem_plainPaths (h : path ∈ plainPaths) :
    ∃ r : Route, r.Serves path ∧ label path = r.template := by
  have served : ∀ p ∈ plainPaths, ∃ r ∈ all, find? p = some (r, []) ∧ p = r.template := by
    decide +kernel
  obtain ⟨r, -, found, same⟩ := served path h
  exact ⟨r, serves_iff_find?.2 ⟨[], found, by simp⟩, by rwa [label_of_mem_plainPaths h]⟩

/-! ### Downloads -/

theorem IsDownload.eq (h : r.IsDownload start) :
    r = .shortDownload ∧ start = "d" ∨ r = .download ∧ start = "download" := by
  cases r <;> simp_all [IsDownload, pattern]

theorem IsDownload.template_eq (h : r.IsDownload start) :
    r.template = "/" ++ start ++ "/\x7btoken\x7d/\x7bfilename\x7d" := by
  rcases h.eq with ⟨rfl, rfl⟩ | ⟨rfl, rfl⟩ <;> decide +kernel

theorem label_of_isDownload (h : r.IsDownload start) {token : List Char} (some_token : token ≠ [])
    (cut : segments? path = some [start.toList, token]
      ∨ ∃ name, segments? path = some [start.toList, token, name]) : label path = r.template := by
  have known : start.toList = "d".toList ∨ start.toList = "download".toList :=
    h.eq.imp (congrArg String.toList ·.2) (congrArg String.toList ·.2)
  rw [h.template_eq]
  rcases cut with cut | ⟨name, cut⟩ <;>
    rw [label_of_segments? cut (by simp), labelOf, downloadStart?, if_pos ⟨known, some_token⟩] <;>
    simp only [String.ofList_toList]

theorem serves_of_downloadStart? {start : List Char} (cut : segments? path = some segments)
    (h : downloadStart? segments = some start) :
    ∃ r : Route, (r.Serves path ∨ r.Nameless path) ∧ label path = r.template := by
  have route (known : start = "d".toList ∨ start = "download".toList) :
      ∃ (r : Route) (text : String), r.IsDownload text ∧ text.toList = start := by
    rcases known with rfl | rfl
    · exact ⟨.shortDownload, "d", rfl, rfl⟩
    · exact ⟨.download, "download", rfl, rfl⟩
  unfold downloadStart? at h
  split at h
  · next first token =>
    obtain ⟨⟨known, some_token⟩, ⟨⟩⟩ := Option.ite_none_right_eq_some.1 h
    obtain ⟨r, text, download, rfl⟩ := route known
    exact ⟨r, .inr ⟨text, token, download, some_token, .inl cut⟩,
      label_of_isDownload download some_token (.inl cut)⟩
  · next first token name =>
    obtain ⟨⟨known, some_token⟩, ⟨⟩⟩ := Option.ite_none_right_eq_some.1 h
    obtain ⟨r, text, download, rfl⟩ := route known
    refine ⟨r, ?_, label_of_isDownload download some_token (.inr ⟨name, cut⟩)⟩
    by_cases some_name : name = []
    · exact .inr ⟨text, token, download, some_token, .inr (some_name ▸ cut)⟩
    · have shape : r.pattern = _ := download
      refine .inl (serves_iff.2 ⟨⟨_, cut, ?_⟩, ?_⟩)
      · simp [shape, Segment.Fits, some_token, some_name]
      · rintro rfl
        simp [pattern] at shape
  · simp at h

/-! ### Capabilities and searches -/

theorem downloadStart?_torznab (rest : List (List Char)) :
    downloadStart? ("torznab".toList :: rest) = none := by
  have other : ¬("torznab".toList = "d".toList ∨ "torznab".toList = "download".toList) := by decide
  match rest with
  | [] => rfl
  | [token] => rw [downloadStart?, if_neg (other ·.1)]
  | [token, name] => rw [downloadStart?, if_neg (other ·.1)]
  | _ :: _ :: _ :: _ => rfl

theorem label_of_isCapsPath {rest : List (List Char)}
    (cut : segments? path = some ("torznab".toList :: rest))
    (h : isCapsPath ("torznab".toList :: rest)) : label path = caps.template := by
  have longer : ("torznab".toList :: rest).length ≠ 1 := by
    rintro one
    obtain rfl : rest = [] := by simpa using one
    simp [isCapsPath] at h
  have text : "/torznab/caps/\x7bindexes\x7d" = caps.template := by decide +kernel
  rw [label_of_segments? cut longer, labelOf, downloadStart?_torznab]
  simp only [h, if_true, text]

theorem label_of_torznabEnd? {rest : List (List Char)} {ending : String}
    (cut : segments? path = some ("torznab".toList :: rest))
    (other : ¬isCapsPath ("torznab".toList :: rest))
    (h : torznabEnd? ("torznab".toList :: rest) = some ending) :
    label path = "/torznab/\x7bindexes\x7d" ++ ending := by
  have longer : ("torznab".toList :: rest).length ≠ 1 := by
    rintro one
    obtain rfl : rest = [] := by simpa using one
    simp [torznabEnd?] at h
  rw [label_of_segments? cut longer, labelOf, downloadStart?_torznab]
  simp only [other, h]
  rfl

theorem serves_of_isCapsPath (cut : segments? path = some segments) (h : isCapsPath segments) :
    caps.Serves path ∧ label path = caps.template := by
  have first := h
  unfold isCapsPath at first
  split at first
  · next first second selector =>
    simp only [Bool.and_eq_true, decide_eq_true_eq, Bool.not_eq_true', List.isEmpty_eq_false_iff]
      at first
    obtain ⟨⟨rfl, rfl⟩, some_char⟩ := first
    refine ⟨serves_iff.2 ⟨⟨_, cut, ?_⟩, by simp⟩, label_of_isCapsPath cut h⟩
    simp [pattern, Segment.Fits, some_char]
  · simp at first

theorem serves_of_torznabEnd? {ending : String} (cut : segments? path = some segments)
    (other : ¬isCapsPath segments) (h : torznabEnd? segments = some ending) :
    ∃ r : Route, r.Serves path ∧ label path = r.template := by
  have text : "/torznab/\x7bindexes\x7d" ++ "" = torznab.template
      ∧ "/torznab/\x7bindexes\x7d" ++ "/api" = torznabApi.template := by decide +kernel
  have asked := h
  unfold torznabEnd? at asked
  split at asked
  · next first selector =>
    obtain ⟨⟨rfl, some_char⟩, ⟨⟩⟩ := Option.ite_none_right_eq_some.1 asked
    refine ⟨.torznab, serves_iff.2 ⟨⟨_, cut, ?_⟩, by simp⟩,
      (label_of_torznabEnd? cut other h).trans text.1⟩
    simp [pattern, Segment.Fits, some_char]
  · next first selector last =>
    obtain ⟨⟨rfl, some_char, rfl⟩, ⟨⟩⟩ := Option.ite_none_right_eq_some.1 asked
    refine ⟨.torznabApi, serves_iff.2 ⟨⟨_, cut, ?_⟩, ?_⟩,
      (label_of_torznabEnd? cut other h).trans text.2⟩
    · simp [pattern, Segment.Fits, some_char]
    · rintro - ⟨_, cut', fits⟩
      obtain rfl := Option.some.inj (cut.symm.trans cut')
      exact other (by simpa [pattern, Segment.Fits, isCapsPath] using fits)
  · simp at asked

end

variable {r : Route} {path : String}

/-- A label other than that of unknown paths is the template of the preferred route, or of a route
for downloads. -/
theorem exists_of_label_ne (h : label path ≠ otherLabel) :
    ∃ r : Route, (r.Serves path ∨ r.Nameless path) ∧ label path = r.template := by
  by_cases plain : path ∈ plainPaths
  · obtain ⟨r, served, labelled⟩ := serves_of_mem_plainPaths plain
    exact ⟨r, .inl served, labelled⟩
  cases cut : segments? path with
  | none => simp [label, plain, cut] at h
  | some segments =>
    cases download : downloadStart? segments with
    | some start => exact serves_of_downloadStart? cut download
    | none =>
      by_cases selects : isCapsPath segments
      · obtain ⟨served, labelled⟩ := serves_of_isCapsPath cut selects
        exact ⟨.caps, .inl served, labelled⟩
      cases asks : torznabEnd? segments with
      | some ending =>
        obtain ⟨r, served, labelled⟩ := serves_of_torznabEnd? cut selects asks
        exact ⟨r, .inl served, labelled⟩
      | none => simp [label, plain, cut, labelOf, download, selects, asks] at h

theorem label_of_serves (h : r.Serves path) : label path = r.template := by
  obtain ⟨⟨segments, cut, fits⟩, alone⟩ := serves_iff.1 h
  cases r with
  | health => exact label_of_literal rfl h.1
  | config => exact label_of_literal rfl h.1
  | status => exact label_of_literal rfl h.1
  | metrics => exact label_of_literal rfl h.1
  | caps =>
    obtain _ | ⟨rfl, _ | ⟨rfl, _ | ⟨some_char, ⟨⟩⟩⟩⟩ := fits
    exact label_of_isCapsPath cut (by simpa [isCapsPath, Segment.Fits] using some_char)
  | torznab =>
    obtain _ | ⟨rfl, _ | ⟨some_char, ⟨⟩⟩⟩ := fits
    have asks := label_of_torznabEnd? cut (by simp [isCapsPath]) (if_pos ⟨rfl, some_char⟩)
    exact asks.trans (by decide +kernel)
  | torznabApi =>
    have no_caps : ¬isCapsPath segments := fun selects =>
      alone rfl (serves_of_isCapsPath cut selects).1.1
    obtain _ | ⟨rfl, _ | ⟨some_char, _ | ⟨rfl, ⟨⟩⟩⟩⟩ := fits
    have asks := label_of_torznabEnd? cut no_caps (if_pos ⟨rfl, some_char, rfl⟩)
    exact asks.trans (by decide +kernel)
  | download =>
    obtain _ | ⟨rfl, _ | ⟨some_token, _ | ⟨-, ⟨⟩⟩⟩⟩ := fits
    exact label_of_isDownload rfl some_token (.inr ⟨_, cut⟩)
  | shortDownload =>
    obtain _ | ⟨rfl, _ | ⟨some_token, _ | ⟨-, ⟨⟩⟩⟩⟩ := fits
    exact label_of_isDownload rfl some_token (.inr ⟨_, cut⟩)

theorem label_of_nameless (h : r.Nameless path) : label path = r.template := by
  obtain ⟨start, token, download, some_token, cut⟩ := h
  exact label_of_isDownload download some_token (cut.imp_right fun cut => ⟨[], cut⟩)

/-- The preferred route of a path is the one that is found for it, as long as no placeholder stands
for an empty segment. The label of a path is the template of this route; that of a route for
downloads, if the path has the token of one and no name; and the label of unknown paths for all
other paths, which no route matches. -/
theorem label_eq_iff (path : String) :
    (∀ r : Route, r.Serves path
        ↔ ∃ captured, find? path = some (r, captured) ∧ ∀ c ∈ captured, c.2 ≠ [])
      ∧ (∀ r : Route, label path = r.template ↔ r.Serves path ∨ r.Nameless path)
      ∧ (label path = otherLabel ↔ ∀ r : Route, ¬r.Matches path ∧ ¬r.Nameless path) := by
  have counted (r : Route) : label path = r.template ↔ r.Serves path ∨ r.Nameless path := by
    constructor
    · intro labelled
      have known : label path ≠ otherLabel := labelled ▸ template_ne_otherLabel r
      obtain ⟨s, reason, again⟩ := exists_of_label_ne known
      rwa [template_injective (labelled.symm.trans again)]
    · rintro (served | nameless)
      · exact label_of_serves served
      · exact label_of_nameless nameless
  refine ⟨fun r => serves_iff_find?, counted, ?_⟩
  constructor
  · intro unknown r
    have not_counted (s : Route) : ¬(s.Serves path ∨ s.Nameless path) := fun reason =>
      template_ne_otherLabel s (((counted s).2 reason).symm.trans unknown)
    refine ⟨fun here => ?_, fun nameless => not_counted r (.inr nameless)⟩
    by_cases preferred : r = .torznabApi ∧ caps.Matches path
    · exact not_counted .caps (.inl (serves_iff.2 ⟨preferred.2, by simp⟩))
    · exact not_counted r (.inl (serves_iff.2 ⟨here, fun api caps => preferred ⟨api, caps⟩⟩))
  · intro none
    by_contra known
    obtain ⟨s, served | nameless, -⟩ := exists_of_label_ne known
    · exact (none s).1 served.1
    · exact (none s).2 nameless

/-- A path without the name of a file is counted as a download, although no route has its
segments. -/
theorem label_of_missing_name :
    ¬(label "/d/x" = otherLabel ↔ ∀ r : Route, ¬r.Matches "/d/x") := by
  have counted : label "/d/x" ≠ otherLabel := by decide
  have unserved : ∀ r : Route, ¬r.Matches "/d/x" := by
    rintro r ⟨segments, cut, fits⟩
    obtain ⟨captured, here, -⟩ := forall₂_fits_iff.1 fits
    have none_found : find? "/d/x" = none := by decide
    rcases find?_of_capture? cut here with found | ⟨-, c, found⟩ <;> simp [none_found] at found
  exact fun agree => counted (agree.2 unserved)

end Route

end TorznabGateway
