import TorznabGateway.Proofs.Gateway.Reach
import TorznabGateway.Proofs.Indexer.Registry

/-!
# Who reaches the indexers

Indexers are searched for callers that present the display form of the secret, and asked for files
that a signed token names. No other request gets through to them, and none but a search with the key
touches the search cache and the sightings. So along a run these two are what they would be had the
other requests never come.

## Main definitions

* `HttpRequest.AsksSearch`: a request to search with the key of the gateway.
* `HttpRequest.AsksFile`: a request whose token names a file.
* `Gateway.run`: the state after a run of requests.

## Main statements

* `TorznabResponder.respond_of_locked`: what a request without the key is answered with.
* `Gateway.reach_authorized`: what may be reached by whom, and what others leave alone.
-/
namespace TorznabGateway

/-! ## Answers without the key -/

theorem Auth.authenticate_of_ne {secret : SharedSecret} {candidate : Option String}
    (h : candidate ≠ some secret.display) : ∃ e, (authenticate secret candidate).1 = .error e := by
  cases candidate with
  | none => exact ⟨_, rfl⟩
  | some key =>
    have wrong : checkKey secret key = false := by
      rw [checkKey, beq_eq_false_iff_ne]
      rintro rfl
      exact h rfl
    rw [authenticate]
    by_cases empty : key.isEmpty
    · exact ⟨_, by rw [if_pos empty]⟩
    · exact ⟨_, by rw [if_neg empty, wrong]; rfl⟩

namespace TorznabResponder

/-- What anyone gets: the way to the capabilities, the capabilities, or a refusal. -/
def openOutcome (r : TorznabResponder) (selector : String) (request : TorznabRequest) :
    TorznabOutcome :=
  if request.function?.isNone then .redirect (capsLocation selector)
  else if request.isCaps then r.caps selector
  else .error .insufficientPrivileges

/-- A request without the key gets what anyone gets, starts no search and changes nothing. -/
theorem respond_of_locked {r : TorznabResponder} {request : TorznabRequest}
    (locked : request.apikey ≠ some r.secret.display) (s : ResponderState) (now : Nat)
    (selector : String) :
    ∃ observed, r.respond s now selector request
      = { outcome := r.openOutcome selector request, state := s, observed } := by
  obtain ⟨e, refused⟩ := Auth.authenticate_of_ne locked
  rw [respond, openOutcome]
  by_cases blank : request.function?.isNone
  · rw [if_pos blank, if_pos blank]
    exact ⟨[], rfl⟩
  rw [if_neg blank, if_neg blank]
  by_cases caps : request.isCaps
  · rw [if_pos caps, if_pos caps]
    exact ⟨[], rfl⟩
  rw [if_neg caps, if_neg caps]
  dsimp only
  rw [refused]
  exact ⟨_, rfl⟩

end TorznabResponder

/-! ## Authority -/

namespace HttpRequest

/-- A request to search that presents the display form of the secret. -/
def AsksSearch (r : HttpRequest) (secret : SharedSecret) : Prop :=
  (r.route? = some .torznab ∨ r.route? = some .torznabApi) ∧ r.key? = some secret.display

instance (r : HttpRequest) (secret : SharedSecret) : Decidable (r.AsksSearch secret) :=
  inferInstanceAs (Decidable (_ ∧ _))

/-- A request to download whose token segment, after its escapes are resolved, is the signed form of
a payload that names a link and an indexer, up to the case of the indexer's name. -/
def AsksFile (r : HttpRequest) (secret : SharedSecret) (indexer link : String) : Prop :=
  ∃ route segment filename token payload site,
    (route = .download ∨ route = .shortDownload)
    ∧ Route.find? r.path = some (route, [("token", segment), ("filename", filename)])
    ∧ Route.text? segment = some token
    ∧ token.toList = DownloadToken.wireForm secret payload
    ∧ DownloadToken.ofPayload? payload = some ⟨site, link⟩
    ∧ Text.eqIgnoreAsciiCase indexer site

end HttpRequest

namespace Gateway

variable {g : Gateway} {s : GatewayState} {now : Nat} {r : HttpRequest}

/-- What is asked of an indexer for a token: the token is signed, and names the indexer and the
link. -/
theorem mem_downloads_download {token filename name link : String}
    (h : (name, link) ∈ (g.download s now token filename).downloads) :
    ∃ t x, DownloadToken.verify g.responder.secret token = .ok t
      ∧ g.registry.find? t.indexer = some x ∧ name = x.name ∧ link = t.sourceLink := by
  rw [download] at h
  dsimp only at h
  rw [DownloadToken.decode_fst] at h
  cases hv : DownloadToken.verify g.responder.secret token with
  | error e =>
    rw [hv] at h
    cases h
  | ok t =>
    rw [hv] at h
    dsimp only at h
    cases hx : g.registry.find? t.indexer with
    | none =>
      rw [hx] at h
      cases h
    | some x =>
      have asked : (name, link) ∈ [(x.name, t.sourceLink)] := by
        rw [hx] at h
        dsimp only at h
        split at h <;> exact h
      obtain ⟨rfl, rfl⟩ := Prod.mk.inj (List.mem_singleton.1 asked)
      exact ⟨t, x, rfl, hx, rfl, rfl⟩

/-- Without the key a request to search reaches nothing. -/
theorem reach_of_not_asksSearch (h : ¬r.AsksSearch g.responder.secret) :
    (g.handle s now r).reach.searches = [] ∧ (g.handle s now r).reach.torznab = s.torznab := by
  rw [reach_handle_eq]
  cases hs : r.searching? with
  | none => cases r.fetching? <;> exact ⟨rfl, rfl⟩
  | some found =>
    obtain ⟨indexes, request⟩ := found
    obtain ⟨route, parsed⟩ := HttpRequest.route_of_searching? hs
    have locked : request.apikey ≠ some g.responder.secret.display := by
      rw [HttpRequest.apikey_torznabRequest parsed]
      exact fun key => h ⟨route, key⟩
    obtain ⟨observed, answered⟩ := TorznabResponder.respond_of_locked locked s.torznab now indexes
    dsimp only
    rw [answered]
    exact ⟨rfl, rfl⟩

/-- Files are asked for by their tokens only. -/
theorem asksFile_of_mem_downloads {name link : String}
    (h : (name, link) ∈ (g.handle s now r).reach.downloads) :
    (∃ x ∈ g.registry.indexers, x.name = name)
      ∧ r.AsksFile g.responder.secret name link := by
  rw [reach_handle_eq] at h
  cases hs : r.searching? with
  | some found =>
    rw [hs] at h
    cases h
  | none =>
    rw [hs] at h
    cases hf : r.fetching? with
    | none =>
      rw [hf] at h
      cases h
    | some found =>
      obtain ⟨token, filename⟩ := found
      rw [hf] at h
      obtain ⟨t, x, signed, found, rfl, rfl⟩ := mem_downloads_download h
      obtain ⟨payload, wire, read⟩ := DownloadToken.verify_eq_ok_iff.1 signed
      obtain ⟨route, segment, nameSegment, kind, path, text, -⟩ :=
        HttpRequest.exists_of_fetching? hf
      obtain ⟨member, named⟩ := Registry.mem_of_find? found
      exact ⟨⟨x, member, rfl⟩, route, segment, nameSegment, token, payload,
        t.indexer, kind, path, text, wire, read, named⟩

/-! ## Runs -/

/-- The state after a run of requests at the given times. -/
def run (g : Gateway) (s : GatewayState) (requests : List (Nat × HttpRequest)) : GatewayState :=
  requests.foldl (fun s x => (g.handle s x.1 x.2).state) s

@[simp] theorem run_nil (g : Gateway) (s : GatewayState) : g.run s [] = s := rfl

@[simp] theorem run_cons (g : Gateway) (s : GatewayState) (x : Nat × HttpRequest)
    (rest : List (Nat × HttpRequest)) :
    g.run s (x :: rest) = g.run (g.handle s x.1 x.2).state rest := rfl

/-- What a request does to the search cache and the sightings depends on these two only. -/
theorem torznab_handle_congr {s t : GatewayState} (h : s.torznab = t.torznab) :
    (g.handle s now r).state.torznab = (g.handle t now r).state.torznab := by
  have hs := congrArg Reach.torznab (g.reach_handle_eq s now r)
  have ht := congrArg Reach.torznab (g.reach_handle_eq t now r)
  refine hs.trans (Eq.trans ?_ ht.symm)
  rw [h]
  cases r.searching? with
  | some found => rfl
  | none => cases r.fetching? <;> rfl

/-- Requests that do not search with the key may be left out of a run. -/
theorem torznab_run_filter {s t : GatewayState} (h : s.torznab = t.torznab)
    (requests : List (Nat × HttpRequest)) :
    (g.run s requests).torznab
      = (g.run t (requests.filter fun x => x.2.AsksSearch g.responder.secret)).torznab := by
  induction requests generalizing s t with
  | nil => exact h
  | cons x rest ih =>
    by_cases asks : x.2.AsksSearch g.responder.secret
    · rw [List.filter_cons_of_pos (by simpa using asks)]
      exact ih (torznab_handle_congr h)
    · rw [List.filter_cons_of_neg (by simpa using asks)]
      have kept : (g.handle s x.1 x.2).state.torznab = s.torznab :=
        (reach_of_not_asksSearch asks).2
      exact ih (kept.trans h)

/-- Whatever requests a gateway served since its start: while it serves the next one, an indexer is
searched only if that is a request to search with the display form of the secret, and a link is
fetched from an indexer only if it is a request to download whose token is signed for just this link
and this indexer. Any request but a search with the key leaves the search cache and the sightings as
they were, and they are what they would be had no other requests been served. -/
theorem reach_authorized (g : Gateway) (served : List (Nat × HttpRequest)) (now : Nat)
    (r : HttpRequest) :
    ((g.handle (g.run g.start served) now r).searches ≠ [] → r.AsksSearch g.responder.secret)
    ∧ (∀ name link, (name, link) ∈ (g.handle (g.run g.start served) now r).downloads →
      (∃ x ∈ g.registry.indexers, x.name = name) ∧ r.AsksFile g.responder.secret name link)
    ∧ (¬r.AsksSearch g.responder.secret →
      (g.handle (g.run g.start served) now r).state.torznab = (g.run g.start served).torznab)
    ∧ (g.run g.start served).torznab = (g.run g.start
        (served.filter fun x => x.2.AsksSearch g.responder.secret)).torznab := by
  refine ⟨?_, fun name link asked => asksFile_of_mem_downloads asked,
    fun locked => (reach_of_not_asksSearch locked).2, torznab_run_filter rfl served⟩
  intro searched
  by_contra locked
  exact searched (reach_of_not_asksSearch locked).1

end Gateway

end TorznabGateway
