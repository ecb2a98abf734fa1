import TorznabGateway.Gateway
import TorznabGateway.Indexer.Scripted
import TorznabGateway.Proofs.Http.Matching
import TorznabGateway.Proofs.Http.Segment
import TorznabGateway.Proofs.Indexer.Registry

/-!
# Redirects lead to capabilities

A request without a function is sent on to a location of three segments. Whatever the selector is,
the third one is its percent-encoding as a whole, so the location is served as capabilities, never
as a search, and the selector is read back from it.

## Main statements

* `TorznabResponder.serves_capsLocation`: the location is one of capabilities.
* `Gateway.redirect_leads_to_caps`: what a request for the location is answered with.
-/
namespace TorznabGateway

open Text Encoding

theorem Encoding.Percent.encode_ne_nil {s : String} (h : s ≠ "") : (encode s).toList ≠ [] := by
  intro empty
  have read := decode_encode s
  rw [String.toList_eq_nil_iff.1 empty] at read
  have again := Utf8.decode?_encode s
  rw [← read] at again
  exact h (Option.some.inj again).symm

theorem Route.spelledAs_encode (s : String) : SpelledAs (Percent.encode s).toList s := by
  rw [SpelledAs, String.ofList_toList, Percent.decode_encode]

theorem HttpRequest.method_ofTarget (method target : String) (headers : List (String × String)) :
    (ofTarget method target headers).method = method := by
  simp only [ofTarget]

/-- A target without query and fragment is a path. -/
theorem HttpRequest.path_ofTarget {target : String} (query : '?' ∉ target.toList)
    (fragment : '#' ∉ target.toList) (method : String) (headers : List (String × String)) :
    (ofTarget method target headers).path = target := by
  simp only [ofTarget, splitFirst_of_not_mem fragment, splitFirst_of_not_mem query,
    String.ofList_toList]

namespace TorznabResponder

/-! ## The location -/

theorem segments?_capsLocation (selector : String) :
    Route.segments? (capsLocation selector)
      = some ["torznab".toList, "caps".toList, (Percent.encode selector).toList] := by
  have whole : '/' ∉ (Percent.encode selector).toList := fun h =>
    (Percent.inSegment_of_mem_encode h).1 rfl
  have written : (capsLocation selector).toList = '/' :: joinWith ['/']
      ["torznab".toList, "caps".toList, (Percent.encode selector).toList] := by
    simp [capsLocation, joinWith]
  refine Route.segments?_of_toList written (List.cons_ne_nil _ _) ?_
  rw [List.forall_mem_cons, List.forall_mem_cons, List.forall_mem_singleton]
  exact ⟨by decide, by decide, whole⟩

theorem path_ofTarget_capsLocation (selector method : String) (headers : List (String × String)) :
    (HttpRequest.ofTarget method (capsLocation selector) headers).path = capsLocation selector := by
  have front : "/torznab/caps/".toList.all fun c => c != '?' && c != '#' := by decide
  have plain (c : Char) (hc : c ∈ (capsLocation selector).toList) : c ≠ '?' ∧ c ≠ '#' := by
    rw [capsLocation, String.toList_append, List.mem_append] at hc
    rcases hc with hc | hc
    · simpa using List.all_eq_true.1 front c hc
    · exact (Percent.inSegment_of_mem_encode hc).2
  exact HttpRequest.path_ofTarget (fun h => (plain _ h).1 rfl) (fun h => (plain _ h).2 rfl) _ _

variable {selector : String}

theorem serves_capsLocation (some_char : selector ≠ "") :
    Route.caps.Serves (capsLocation selector) := by
  refine Route.serves_iff.2 ⟨⟨_, segments?_capsLocation selector, ?_⟩, by simp⟩
  simp [Route.pattern, Segment.Fits, Percent.encode_ne_nil some_char]

theorem find?_capsLocation (some_char : selector ≠ "") :
    Route.find? (capsLocation selector)
      = some (.caps, [("indexes", (Percent.encode selector).toList)]) := by
  have here : Route.capture? Route.caps.pattern
      ["torznab".toList, "caps".toList, (Percent.encode selector).toList]
      = some [("indexes", (Percent.encode selector).toList)] := by
    simp [Route.pattern, Route.capture?, Percent.encode_ne_nil some_char]
  rcases Route.find?_of_capture? (segments?_capsLocation selector) here with found | ⟨other, -⟩
  · exact found
  · simp at other

theorem respond_of_function?_eq_none (r : TorznabResponder) (s : ResponderState) (now : Nat)
    (selector : String) {request : TorznabRequest} (absent : request.function? = none) :
    r.respond s now selector request
      = { outcome := .redirect (capsLocation selector), state := s } := by
  rw [respond, absent]
  rfl

end TorznabResponder

namespace Gateway

open TorznabResponder

/-- A GET for the location is answered as the capabilities of the selector. -/
theorem answer_capsLocation (g : Gateway) (s : GatewayState) (now : Nat) {selector : String}
    (some_char : selector ≠ "") {r : HttpRequest} (get : r.method = "GET")
    (path : r.path = capsLocation selector) :
    g.answer s now r = { response := ofOutcome (g.responder.caps selector), state := s } := by
  rw [answer, path, find?_capsLocation some_char]
  simp only [answerRoute, get, Route.decode_cons, (Route.spelledAs_encode selector).text?,
    Route.decode_nil]
  rfl

/-- A request without a function, to indexers that a selector of at least one character names, is
sent on to a location and changes nothing. A GET for the location, at any time and in any state,
goes to the capabilities: no other route that matches its path is preferred, the segment behind
stands for the selector, and the answer is that of the capabilities of the selector. -/
theorem redirect_leads_to_caps (g : Gateway) (s s' : GatewayState) (now now' : Nat)
    {selector : String} (some_char : selector ≠ "") {request : TorznabRequest}
    (absent : request.function? = none) (headers : List (String × String)) :
    ∃ location, g.responder.respond s.torznab now selector request
        = { outcome := .redirect location, state := s.torznab }
      ∧ let r := HttpRequest.ofTarget "GET" location headers
        Route.caps.Serves r.path
        ∧ (∃ segment, Route.find? r.path = some (.caps, [("indexes", segment)])
          ∧ Route.SpelledAs segment selector ∧ Route.text? segment = some selector)
        ∧ g.answer s' now' r
          = { response := ofOutcome (g.responder.caps selector), state := s' } := by
  refine ⟨capsLocation selector, respond_of_function?_eq_none _ _ _ _ absent, ?_⟩
  have path := path_ofTarget_capsLocation selector "GET" headers
  have spelled := Route.spelledAs_encode selector
  refine ⟨?_, ⟨(Percent.encode selector).toList, ?_, spelled, spelled.text?⟩,
    answer_capsLocation g s' now' some_char (HttpRequest.method_ofTarget _ _ _) path⟩
  · rw [path]
    exact serves_capsLocation some_char
  · rw [path]
    exact find?_capsLocation some_char

/-- An indexer whose name is no single segment of a path unless it is escaped. -/
def delimitedSource : Indexer :=
  ({ name := "caps/é%20?" } : Script).toIndexer

theorem redirect_leads_to_caps_delimiters :
    let g := Gateway.new {} { indexers := [delimitedSource] } [7] default default
    (delimitedSource.name ≠ "" ∧ ({} : TorznabRequest).function? = none)
    ∧ ∃ location xml, (g.responder.respond g.start.torznab 0 delimitedSource.name {}).outcome
        = .redirect location
      ∧ (g.answer g.start 5 (.ofTarget "GET" location [])).response
        = some (.ofText 200 xmlType xml) := by
  intro g
  have some_char : delimitedSource.name ≠ "" := by decide
  have absent : ({} : TorznabRequest).function? = none := rfl
  obtain ⟨xml, listed⟩ : ∃ xml, g.responder.caps delimitedSource.name = .caps xml := by
    have resolved : g.responder.registry.resolve delimitedSource.name = .ok [delimitedSource] := by
      rw [Registry.resolve_of_name (by decide) (by decide) (by decide)]
      rfl
    rw [caps, resolve, resolved]
    exact ⟨_, rfl⟩
  obtain ⟨location, sent, -, -, answered⟩ :=
    redirect_leads_to_caps g g.start g.start 0 5 some_char absent []
  exact ⟨⟨some_char, absent⟩, location, xml, by rw [sent], by rw [answered, listed]; rfl⟩

end Gateway

end TorznabGateway
