import Mathlib.Data.List.Forall2
import TorznabGateway.Http.Route

/-!
# Which route serves a path

A path has the segments of a route if each part of the pattern fits the segment in its place. Only
the capabilities and the longer form of a request have paths in common, and a literal decides
between them. The route that is preferred in this way is the one found in the table of routes.

## Main definitions

* `Route.Matches`: a path has the segments of a route.
* `Route.Serves`: of the routes that match a path the one whose literals prefer it.

## Main statements

* `Route.Serves.unique`: one route at most serves a path.
* `Route.find?_of_capture?`: a route that captures a path is found for it, with one exception.
* `Route.serves_iff_find?`: the preferred route is the one that is found.
-/
namespace TorznabGateway

open Text

/-- Whether a segment can stand in the place of a part of a pattern. A placeholder stands for one
segment that is not empty. -/
def Segment.Fits : Segment → List Char → Prop
  | .literal text, s => s = text.toList
  | .placeholder _, s => s ≠ []

namespace Route

/-! ## Routes that serve a path -/

/-- Whether a path has the segments of a route. -/
def Matches (r : Route) (path : String) : Prop :=
  ∃ segments, segments? path = some segments ∧ List.Forall₂ Segment.Fits r.pattern segments

/-- Whether a pattern has a literal in the first place where it differs in kind from another one. -/
def Beats : List Segment → List Segment → Prop
  | .literal _ :: _, .placeholder _ :: _ => True
  | .literal _ :: p, .literal _ :: q => Beats p q
  | .placeholder _ :: p, .placeholder _ :: q => Beats p q
  | _, _ => False

/-- Whether a route matches a path and is preferred to every other one that does. -/
def Serves (r : Route) (path : String) : Prop :=
  r.Matches path ∧ ∀ other : Route, other.Matches path → other ≠ r → Beats r.pattern other.pattern

theorem beats_asymm {p q : List Segment} (h : Beats p q) : ¬Beats q p := by
  fun_induction Beats p q with
  | case1 => simp [Beats]
  | case2 _ p _ q ih => simpa [Beats] using ih h
  | case3 _ p _ q ih => simpa [Beats] using ih h
  | case4 => exact absurd h id

theorem Serves.unique {r s : Route} {path : String} (hr : r.Serves path) (hs : s.Serves path) :
    r = s := by
  by_contra other
  exact beats_asymm (hr.2 s hs.1 (Ne.symm other)) (hs.2 r hr.1 other)

/-! ## Patterns that fit one path -/

/-- Whether two patterns have as many parts, and the same literals where both have one. -/
def Compatible : List Segment → List Segment → Bool
  | [], [] => true
  | .literal a :: p, .literal b :: q => a == b && Compatible p q
  | _ :: p, _ :: q => Compatible p q
  | _, _ => false

theorem mem_all (r : Route) : r ∈ all := by
  cases r <;> decide

/-- Two routes whose patterns fit one path are the capabilities and the longer form of a request. -/
theorem pairwise_all : all.Pairwise fun r s =>
    Compatible r.pattern s.pattern → r = .caps ∧ s = .torznabApi := by
  decide

/-- A pattern that is not empty captures a first segment, the same as its literal if it has one
there. -/
theorem exists_of_capture?_cons {part : Segment} {p : List Segment} {segments : List (List Char)}
    {captured : List (String × List Char)} (h : capture? (part :: p) segments = some captured) :
    ∃ s rest behind, segments = s :: rest ∧ capture? p rest = some behind
      ∧ ∀ text, part = .literal text → text.toList = s := by
  cases segments with
  | nil => cases part <;> simp [capture?] at h
  | cons s rest =>
    cases part with
    | literal text =>
      rw [capture?] at h
      split at h
      · next same => exact ⟨s, rest, captured, rfl, h, by rintro _ ⟨⟩; exact same⟩
      · simp at h
    | placeholder name =>
      cases p with
      | nil =>
        cases rest with
        | nil => exact ⟨s, [], [], rfl, rfl, by simp⟩
        | cons t rest => simp [capture?] at h
      | cons next p =>
        rw [capture?] at h
        · obtain ⟨behind, captured_behind, -⟩ := Option.map_eq_some_iff.1 h
          exact ⟨s, rest, behind, rfl, captured_behind, by simp⟩
        · simp

/-- Patterns that capture the same segments do not contradict each other. -/
theorem compatible_of_capture? {p q : List Segment} {segments : List (List Char)}
    {c d : List (String × List Char)} (hp : capture? p segments = some c)
    (hq : capture? q segments = some d) : Compatible p q := by
  induction p generalizing q segments c d with
  | nil =>
    cases segments with
    | nil => cases q with
      | nil => rfl
      | cons part q => cases part <;> simp [capture?] at hq
    | cons s rest => simp [capture?] at hp
  | cons part p ih =>
    obtain ⟨s, rest, behind, rfl, hp, literal⟩ := exists_of_capture?_cons hp
    cases q with
    | nil => simp [capture?] at hq
    | cons other q =>
      obtain ⟨_, _, _, ⟨⟩, hq, other_literal⟩ := exists_of_capture?_cons hq
      have behind := ih hp hq
      cases part with
      | placeholder name => cases other <;> exact behind
      | literal a =>
        cases other with
        | placeholder name => exact behind
        | literal b =>
          have same : a.toList = b.toList := (literal a rfl).trans (other_literal b rfl).symm
          simp [Compatible, String.toList_inj.1 same, behind]

/-- A pattern fits what it captures, if no placeholder stands for an empty segment. -/
theorem forall₂_fits_iff {p : List Segment} {segments : List (List Char)} :
    List.Forall₂ Segment.Fits p segments
      ↔ ∃ captured, capture? p segments = some captured ∧ ∀ c ∈ captured, c.2 ≠ [] := by
  fun_induction capture? p segments with
  | case1 => simp
  | case2 text p segments ih => simp [Segment.Fits, ih]
  | case3 text p s segments other => simp [Segment.Fits, Ne.symm other]
  | case4 name s empty => simp_all [Segment.Fits]
  | case5 name s some_char => simp_all [Segment.Fits]
  | case6 name p s segments longer ih =>
    rw [List.forall₂_cons, ih]
    cases capture? p segments with
    | none => simp
    | some captured =>
      simp only [Option.map_some, Option.some.injEq, exists_eq_left', List.forall_mem_cons,
        Segment.Fits]
  | case7 p segments none literal last later =>
    cases p with
    | nil => cases segments <;> simp_all
    | cons part p =>
      cases segments with
      | nil => simp
      | cons s rest =>
        cases part with
        | literal text => exact absurd rfl (literal text p s rest rfl)
        | placeholder name => exact absurd rfl (later name p s rest rfl)

/-! ## The route that is found -/

/-- What is found first in a list comes from a given element, or from one that stands before it. -/
theorem findSome?_of_pairwise {α β : Type} {R : α → α → Prop} {xs : List α}
    (ordered : xs.Pairwise R) (f : α → Option β) {x : α} {y : β} (mem : x ∈ xs)
    (here : f x = some y) :
    xs.findSome? f = some y ∨ ∃ x' y', R x' x ∧ f x' = some y' ∧ xs.findSome? f = some y' := by
  induction ordered with
  | nil => exact absurd mem List.not_mem_nil
  | @cons x' xs before _ ih =>
    rcases List.mem_cons.1 mem with rfl | later
    · exact .inl (by rw [List.findSome?_cons, here])
    cases first : f x' with
    | some y' => exact .inr ⟨x', y', before x later, first, by rw [List.findSome?_cons, first]⟩
    | none =>
      rw [List.findSome?_cons, first]
      exact ih later

section

variable {r s : Route} {path : String} {captured : List (String × List Char)}

theorem exists_of_find? (found : find? path = some (r, captured)) :
    ∃ segments, segments? path = some segments ∧ capture? r.pattern segments = some captured := by
  obtain ⟨segments, cut, first⟩ := Option.bind_eq_some_iff.1 found
  obtain ⟨s, -, here⟩ := List.exists_of_findSome?_eq_some first
  obtain ⟨_, captured_eq, ⟨⟩⟩ := Option.map_eq_some_iff.1 here
  exact ⟨segments, cut, captured_eq⟩

/-- A route that captures the segments of a path is the one that is found, with one exception. -/
theorem find?_of_capture? {segments : List (List Char)} (cut : segments? path = some segments)
    (here : capture? r.pattern segments = some captured) :
    find? path = some (r, captured) ∨ r = .torznabApi ∧ ∃ c, find? path = some (.caps, c) := by
  have at_r : (capture? r.pattern segments).map (fun c => (r, c)) = some (r, captured) := by
    rw [here]
    rfl
  rw [find?, cut, Option.bind_some]
  rcases findSome?_of_pairwise pairwise_all
    (fun r => (capture? r.pattern segments).map fun c => (r, c)) (mem_all r) at_r with
    first | ⟨t, _, ordered, at_t, first⟩
  · exact .inl first
  · obtain ⟨c, there, rfl⟩ := Option.map_eq_some_iff.1 at_t
    obtain ⟨rfl, rfl⟩ := ordered (compatible_of_capture? there here)
    exact .inr ⟨rfl, c, first⟩

/-- Of two routes that match one path, one is the capabilities. -/
theorem eq_or_caps (hr : r.Matches path) (hs : s.Matches path) :
    r = s ∨ (r = .caps ∧ s = .torznabApi) ∨ (r = .torznabApi ∧ s = .caps) := by
  obtain ⟨segments, cut, fits⟩ := hr
  obtain ⟨_, cut', fits'⟩ := hs
  obtain rfl := Option.some.inj (cut.symm.trans cut')
  obtain ⟨c, here, -⟩ := forall₂_fits_iff.1 fits
  obtain ⟨d, there, -⟩ := forall₂_fits_iff.1 fits'
  rcases find?_of_capture? cut here with found | ⟨rfl, _, found⟩ <;>
    rcases find?_of_capture? cut there with found' | ⟨rfl, _, found'⟩ <;>
    simp_all

/-- A literal decides between two routes in one case only. -/
theorem serves_iff : r.Serves path ↔ r.Matches path ∧ (r = .torznabApi → ¬caps.Matches path) := by
  constructor
  · rintro ⟨here, preferred⟩
    refine ⟨here, ?_⟩
    rintro rfl there
    exact preferred .caps there (by decide)
  · rintro ⟨here, alone⟩
    refine ⟨here, fun other there ne => ?_⟩
    rcases eq_or_caps here there with rfl | ⟨rfl, rfl⟩ | ⟨rfl, rfl⟩
    · exact absurd rfl ne
    · trivial
    · exact absurd there (alone rfl)

/-- Capabilities that are found for a path of the longer form of a request match it: the segment
that their placeholder stands for is a literal of that form. -/
theorem caps_matches_of_find? (here : torznabApi.Matches path)
    (found : find? path = some (.caps, captured)) : caps.Matches path := by
  obtain ⟨segments, cut, fits⟩ := here
  obtain ⟨_, cut', there⟩ := exists_of_find? found
  obtain rfl := Option.some.inj (cut.symm.trans cut')
  obtain ⟨selector, some_char, rfl⟩ :
      ∃ s, s ≠ [] ∧ segments = ["torznab".toList, s, "api".toList] := by
    simpa [pattern, Segment.Fits, List.forall₂_cons_left_iff] using fits
  obtain ⟨rfl, -⟩ : "caps".toList = selector ∧ _ := by
    simpa [pattern, capture?] using there
  exact ⟨_, cut, by simp [pattern, Segment.Fits]⟩

/-- The preferred route is the one that is found, if no placeholder stands for an empty segment. -/
theorem serves_iff_find? :
    r.Serves path ↔ ∃ captured, find? path = some (r, captured) ∧ ∀ c ∈ captured, c.2 ≠ [] := by
  rw [serves_iff]
  constructor
  · rintro ⟨here, alone⟩
    obtain ⟨segments, cut, fits⟩ := here
    obtain ⟨captured, captures, texts⟩ := forall₂_fits_iff.1 fits
    rcases find?_of_capture? cut captures with found | ⟨rfl, c, found⟩
    · exact ⟨captured, found, texts⟩
    · exact absurd (caps_matches_of_find? ⟨segments, cut, fits⟩ found) (alone rfl)
  · rintro ⟨captured, found, texts⟩
    obtain ⟨segments, cut, here⟩ := exists_of_find? found
    refine ⟨⟨segments, cut, forall₂_fits_iff.2 ⟨captured, here, texts⟩⟩, ?_⟩
    rintro rfl ⟨_, cut', fits⟩
    obtain rfl := Option.some.inj (cut.symm.trans cut')
    obtain ⟨c, there, -⟩ := forall₂_fits_iff.1 fits
    rcases find?_of_capture? cut there with again | ⟨again, -⟩
    · simp [found] at again
    · simp at again

end

end Route

end TorznabGateway
