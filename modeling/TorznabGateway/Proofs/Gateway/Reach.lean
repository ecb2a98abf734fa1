import Mathlib.Data.List.Basic
import TorznabGateway.Gateway
import TorznabGateway.Proofs.Http.Matching
import TorznabGateway.Proofs.Http.Segment

/-!
# What requests reach

Of all requests only two kinds get past the gateway's own pages: those that carry a Torznab request,
and those that name a file. Which ones do so is decided by the request alone. Here it is said what a
request of either kind carries, and what each does to the state and to the indexers is read off the
responder and the download. All others leave both alone.

## Main definitions

* `HttpRequest.key?`: the key that a request presents.
* `HttpRequest.searching?`, `HttpRequest.fetching?`: what a request of either kind carries.
* `GatewayStep.reach`: what a step did beyond the pages of the gateway itself.

## Main statements

* `HttpRequest.apikey_torznabRequest`: a Torznab request is judged by the key that was presented.
* `Gateway.reach_handle_eq`: what a request does to indexers, the search cache and the sightings.
-/
namespace TorznabGateway

open Text Encoding

/-! ## Placeholders -/

namespace Route

/-- The name of a placeholder. -/
def placeholder? : Segment → Option String
  | .literal _ => none
  | .placeholder name => some name

/-- A path is captured by the placeholders of its pattern, in their order. -/
theorem names_of_capture? {p : List Segment} {segments : List (List Char)}
    {captured : List (String × List Char)} (h : capture? p segments = some captured) :
    captured.map (·.1) = p.filterMap placeholder? := by
  fun_induction capture? p segments generalizing captured with
  | case1 =>
    cases h
    rfl
  | case2 text pattern segments ih => exact ih h
  | case3 => cases h
  | case4 => cases h
  | case5 name s =>
    cases h
    rfl
  | case6 name pattern s segments _ ih =>
    obtain ⟨rest, hr, rfl⟩ := Option.map_eq_some_iff.1 h
    simp [ih hr, placeholder?]
  | case7 => cases h

theorem names_of_find? {path : String} {route : Route} {captured : List (String × List Char)}
    (h : find? path = some (route, captured)) :
    captured.map (·.1) = route.pattern.filterMap placeholder? := by
  obtain ⟨segments, -, here⟩ := exists_of_find? h
  exact names_of_capture? here

/-- Decoding gives the texts of all segments, in their order. -/
theorem texts_of_decode {captured : List (String × List Char)} {texts : List String}
    (h : decode captured = .ok texts) : captured.map (fun c => text? c.2) = texts.map some := by
  induction captured generalizing texts with
  | nil =>
    cases h
    rfl
  | cons c rest ih =>
    obtain ⟨name, segment⟩ := c
    rw [decode_cons] at h
    cases ht : text? segment with
    | none =>
      rw [ht] at h
      cases h
    | some text =>
      rw [ht] at h
      cases hr : decode rest with
      | error u =>
        rw [hr] at h
        cases h
      | ok texts =>
        rw [hr] at h
        cases h
        simp [ht, ih hr]

end Route

/-! ## The key of a request -/

namespace HttpRequest

/-- A parameter of the query. -/
def parameter? (r : HttpRequest) (name : String) : Option String :=
  Json.lookup? name (Form.parse (Utf8.encode r.query))

/-- The key that a request presents: the parameter if it is not empty, else the header. -/
def key? (r : HttpRequest) : Option String :=
  match r.parameter? "apikey" with
  | some key => if key = "" then Gateway.headerKey? r else some key
  | none => Gateway.headerKey? r

/-- A Torznab request has the key that was presented over HTTP. -/
theorem apikey_torznabRequest {r : HttpRequest} {request : TorznabRequest}
    (h : Gateway.torznabRequest r = .ok request) : request.apikey = r.key? := by
  rw [Gateway.torznabRequest] at h
  cases hp : TorznabRequest.ofPairs (Form.parse (Utf8.encode r.query)) with
  | error fault =>
    rw [hp] at h
    cases h
  | ok parsed =>
    have given : parsed.apikey = r.parameter? "apikey" := by
      rw [TorznabRequest.ofPairs] at hp
      split at hp
      · cases hp
      · cases hp
        rfl
    rw [hp] at h
    simp only [bind, Except.bind] at h
    rw [key?, ← given]
    split at h
    · next blank =>
      cases h
      cases hk : parsed.apikey with
      | none => rfl
      | some key =>
        rw [hk] at blank
        exact (if_pos blank).symm
    · next filled =>
      cases h
      cases hk : request.apikey with
      | none => exact absurd (by rw [hk]; rfl) filled
      | some key =>
        have nonempty : key ≠ "" := by
          rintro rfl
          exact filled (by rw [hk]; rfl)
        exact (if_neg nonempty).symm

/-! ## The two kinds of requests -/

/-- The route that serves a request, and the texts of its placeholders. -/
def served? (r : HttpRequest) : Option (Route × List String) :=
  if r.method = "GET" ∨ r.method = "HEAD" then
    match Route.find? r.path with
    | none => none
    | some (route, captured) =>
      match Route.decode captured with
      | .error _ => none
      | .ok texts => some (route, texts)
  else none

/-- The selector and the Torznab request of a request to search. -/
def searching? (r : HttpRequest) : Option (String × TorznabRequest) :=
  match r.served? with
  | some (.torznab, [indexes]) | some (.torznabApi, [indexes]) =>
    (Gateway.torznabRequest r).toOption.map fun request => (indexes, request)
  | _ => none

/-- The token and the file name of a request for a file. -/
def fetching? (r : HttpRequest) : Option (String × String) :=
  match r.served? with
  | some (.download, [token, filename]) | some (.shortDownload, [token, filename]) =>
    some (token, filename)
  | _ => none

section

variable {r : HttpRequest}

/-- The route that serves a request. -/
def route? (r : HttpRequest) : Option Route :=
  (Route.find? r.path).map (·.1)

theorem exists_of_served? {route : Route} {texts : List String}
    (h : r.served? = some (route, texts)) :
    ∃ captured, Route.find? r.path = some (route, captured)
      ∧ Route.decode captured = .ok texts := by
  rw [served?] at h
  split at h
  · cases hf : Route.find? r.path with
    | none =>
      rw [hf] at h
      cases h
    | some found =>
      obtain ⟨found, captured⟩ := found
      rw [hf] at h
      dsimp only at h
      cases hd : Route.decode captured with
      | error u =>
        rw [hd] at h
        cases h
      | ok _ =>
        rw [hd] at h
        cases h
        exact ⟨captured, rfl, hd⟩
  · cases h

theorem route_of_searching? {indexes : String} {request : TorznabRequest}
    (h : r.searching? = some (indexes, request)) :
    (r.route? = some .torznab ∨ r.route? = some .torznabApi)
      ∧ Gateway.torznabRequest r = .ok request := by
  have parsed : Gateway.torznabRequest r = .ok request
      ∧ (r.served? = some (.torznab, [indexes]) ∨ r.served? = some (.torznabApi, [indexes])) := by
    rw [searching?] at h
    cases hr : Gateway.torznabRequest r with
    | error fault =>
      rw [hr] at h
      split at h <;> cases h
    | ok request =>
      rw [hr] at h
      split at h
      · next hs =>
        cases h
        exact ⟨rfl, .inl hs⟩
      · next hs =>
        cases h
        exact ⟨rfl, .inr hs⟩
      · cases h
  refine ⟨?_, parsed.1⟩
  rcases parsed.2 with hs | hs
  · obtain ⟨captured, hf, -⟩ := exists_of_served? hs
    exact .inl (by rw [route?, hf]; rfl)
  · obtain ⟨captured, hf, -⟩ := exists_of_served? hs
    exact .inr (by rw [route?, hf]; rfl)

/-- A request for a file is served by one of the two routes for downloads, whose placeholders stand
for the token and the file name. -/
theorem exists_of_fetching? {token filename : String} (h : r.fetching? = some (token, filename)) :
    ∃ route tokenSegment filenameSegment, (route = .download ∨ route = .shortDownload)
      ∧ Route.find? r.path
        = some (route, [("token", tokenSegment), ("filename", filenameSegment)])
      ∧ Route.text? tokenSegment = some token ∧ Route.text? filenameSegment = some filename := by
  have served : ∃ route, (route = .download ∨ route = .shortDownload)
      ∧ r.served? = some (route, [token, filename]) := by
    rw [fetching?] at h
    split at h
    · next hs =>
      cases h
      exact ⟨.download, .inl rfl, hs⟩
    · next hs =>
      cases h
      exact ⟨.shortDownload, .inr rfl, hs⟩
    · cases h
  obtain ⟨route, kind, hs⟩ := served
  obtain ⟨captured, hf, hd⟩ := exists_of_served? hs
  have names : captured.map (·.1) = ["token", "filename"] := by
    rw [Route.names_of_find? hf]
    rcases kind with rfl | rfl <;> rfl
  have texts := Route.texts_of_decode hd
  have two : captured.length = 2 := by simpa using congrArg List.length names
  obtain ⟨⟨n, a⟩, ⟨m, b⟩, rfl⟩ := List.length_eq_two.1 two
  simp only [List.map_cons, List.map_nil, List.cons.injEq, and_true] at names texts
  obtain ⟨rfl, rfl⟩ := names
  exact ⟨route, a, b, kind, hf, texts⟩

end

end HttpRequest

/-! ## What is reached -/

/-- What a step did beyond the pages of the gateway itself: the searches and downloads that it
started, and the search cache and the sightings after it. -/
structure Reach where
  searches : List (String × SearchQuery)
  downloads : List (String × String)
  torznab : ResponderState

def GatewayStep.reach (step : GatewayStep) : Reach :=
  ⟨step.searches, step.downloads, step.state.torznab⟩

namespace Gateway

variable (g : Gateway) (s : GatewayState) (now : Nat) (r : HttpRequest)

theorem reach_handle : (g.handle s now r).reach = (g.answer s now r).reach := by
  rw [handle]
  split <;> rfl

theorem reach_answer :
    (g.answer s now r).reach =
      match r.served? with
      | none => ⟨[], [], s.torznab⟩
      | some (route, texts) => (g.serve s now r route texts).reach := by
  rw [answer, HttpRequest.served?]
  cases Route.find? r.path with
  | none =>
    simp only [ite_self]
    rfl
  | some found =>
    obtain ⟨route, captured⟩ := found
    simp only [answerRoute]
    by_cases read : r.method = "GET" ∨ r.method = "HEAD"
    · rw [if_pos read, if_pos read]
      cases Route.decode captured with
      | error u => split <;> rfl
      | ok texts => split <;> rfl
    · rw [if_neg read, if_neg read]
      rfl

theorem reach_torznab (indexes : String) :
    (g.torznab s now indexes r).reach =
      match torznabRequest r with
      | .error _ => ⟨[], [], s.torznab⟩
      | .ok request =>
        ⟨(g.responder.respond s.torznab now indexes request).searches, [],
          (g.responder.respond s.torznab now indexes request).state⟩ := by
  rw [torznab]
  cases torznabRequest r <;> rfl

theorem reach_download (token filename : String) :
    (g.download s now token filename).reach
      = ⟨[], (g.download s now token filename).downloads, s.torznab⟩ := by
  rw [download]
  dsimp only
  repeat' split
  all_goals rfl

/-- A request to search reaches the responder, a request for a file the download, and any other
request reaches nothing. -/
theorem reach_handle_eq :
    (g.handle s now r).reach =
      match r.searching?, r.fetching? with
      | some (indexes, request), _ =>
        ⟨(g.responder.respond s.torznab now indexes request).searches, [],
          (g.responder.respond s.torznab now indexes request).state⟩
      | none, some (token, filename) =>
        ⟨[], (g.download s now token filename).downloads, s.torznab⟩
      | none, none => ⟨[], [], s.torznab⟩ := by
  rw [reach_handle, reach_answer, HttpRequest.searching?, HttpRequest.fetching?]
  cases r.served? with
  | none => rfl
  | some served =>
    obtain ⟨route, texts⟩ := served
    cases route with
    | health | config | status | metrics => rfl
    | caps => rcases texts with _ | ⟨indexes, _ | ⟨_, _⟩⟩ <;> rfl
    | torznab | torznabApi =>
      rcases texts with _ | ⟨indexes, _ | ⟨_, _⟩⟩
      · rfl
      · simp only [serve, reach_torznab]
        cases torznabRequest r <;> rfl
      · rfl
    | download | shortDownload =>
      rcases texts with _ | ⟨token, _ | ⟨filename, _ | ⟨_, _⟩⟩⟩
      · rfl
      · rfl
      · exact g.reach_download s now token filename
      · rfl

end Gateway

end TorznabGateway
