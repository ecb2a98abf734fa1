import TorznabGateway.Jackett.Link
import TorznabGateway.Proofs.Net.Origin

/-!
# Links get the key back

A link of the server from which the key was taken gets the key of the indexer when it is fetched: it
is the same link, with the key behind the other pairs of its query. A link of another server is
fetched as it is, so the key is sent to no other. Nothing is said here of how a text is taken apart
as a URL; what is relied on is that a reader gets back what is written with another query.

## Main definitions

* `Jackett.otherPairs`: the pairs of a link besides the key.

## Main statements

* `Jackett.exists_read_stripKey`: the link without the key.
* `Jackett.Endpoint.read_authorize`: a link without the key, with it.
* `Jackett.Endpoint.authorize_stripKey`: the link that is fetched.
-/
namespace TorznabGateway.Jackett

open Text

variable {read : Url.Reader} {link : String} {u : Url}

/-- The other pairs of a query. -/
def otherPairs (u : Url) : List (String × String) :=
  u.queryPairs.filter (·.1 != keyParameter)

/-- A link without the key is read as the same link with its other pairs. -/
theorem exists_read_stripKey (lawful : read.Lawful) (parsed : read link = some u)
    (web : u.OfWeb read) :
    ∃ query, read (stripKey read link) = some { u with query }
      ∧ Url.queryPairs { u with query } = otherPairs u := by
  rw [stripKey, parsed]
  dsimp only
  split
  · exact ⟨_, lawful.again_withPairs parsed web (otherPairs u), Url.queryPairs_withPairs u _⟩
  · next absent =>
    -- Nothing is written again, so it is the query of the link as it came that has no key.
    refine ⟨u.query, parsed, ?_⟩
    symm
    rw [otherPairs, List.filter_eq_self]
    intro pair hp
    simp only [List.any_eq_true, not_exists, not_and] at absent
    simpa using absent pair hp

namespace Endpoint

variable (e : Endpoint) {base : Url}

/-- A link of the server without the key is read as the same link with the key behind its pairs. -/
theorem read_authorize (lawful : read.Lawful) (server : read e.baseUrl = some base)
    (web : base.scheme = "http".toList ∨ base.scheme = "https".toList)
    (parsed : read link = some u) (same : Url.sameOrigin read u base)
    (no_key : ∀ pair ∈ u.queryPairs, pair.1 ≠ keyParameter) :
    read (e.authorize read link) = some (u.appendPair (keyParameter, e.apiKey)) := by
  have absent : u.queryPairs.any (·.1 == keyParameter) = false := by
    simpa [List.any_eq_false] using no_key
  rw [authorize, parsed, server]
  dsimp only
  rw [same, absent]
  exact lawful.again_appendPair parsed (Url.ofWeb_of_sameOrigin web same) _

/-- A link of the server from which the key was taken is fetched with the key of the indexer behind
its other pairs, and is otherwise the same. A link of another server is fetched as it is. -/
theorem authorize_stripKey (lawful : read.Lawful) (server : read e.baseUrl = some base)
    (web : base.scheme = "http".toList ∨ base.scheme = "https".toList)
    (parsed : read link = some u) :
    (Url.sameOrigin read u base → ∃ v, read (e.authorize read (stripKey read link)) = some v
      ∧ v.scheme = u.scheme ∧ v.host = u.host ∧ v.port = u.port ∧ v.path = u.path
      ∧ v.fragment = u.fragment ∧ v.queryPairs = otherPairs u ++ [(keyParameter, e.apiKey)])
    ∧ (¬Url.sameOrigin read u base → e.authorize read link = link) := by
  constructor
  · intro same
    obtain ⟨query, stripped, pairs⟩ :=
      exists_read_stripKey lawful parsed (Url.ofWeb_of_sameOrigin web same)
    have no_key : ∀ pair ∈ Url.queryPairs { u with query }, pair.1 ≠ keyParameter := by
      simp [pairs, otherPairs]
    -- Only the query has changed, so the link is still one of the server.
    have still : Url.sameOrigin read { u with query } base := by rwa [Url.sameOrigin_withQuery]
    have fetched := e.read_authorize lawful server web stripped still no_key
    exact ⟨_, fetched, rfl, rfl, rfl, rfl, rfl, by rw [Url.queryPairs_appendPair, pairs]⟩
  · intro other
    rw [authorize, parsed, server]
    simp [other]

/-- A link with the key twice, once in another spelling, and a link of another server. -/
theorem authorize_stripKey_repeated :
    let read : Url.Reader := Url.parse? Url.asciiDomain?
    let e : Endpoint := ⟨"http://jackett:9117", "K", "tpb"⟩
    let link := "http://jackett:9117/dl/?jackett_apikey=S&path=a%20b&jackett%5Fapikey=T#f"
    let foreign := "http://tracker.example/get?id=1"
    (∃ v, read (e.authorize read (stripKey read link)) = some v ∧ v.fragment = some ['f']
      ∧ v.queryPairs = [("path", "a b"), ("jackett_apikey", "K")])
    ∧ e.authorize read foreign = foreign := by
  intro read e link foreign
  have lawful : read.Lawful := Url.lawful_parse? Url.lawful_asciiDomain?
  let base : Url := { scheme := "http".toList, host := some "jackett".toList, port := some 9117
                      path := .segments [[]] }
  have server : read e.baseUrl = some base := by decide +kernel
  have web : base.scheme = "http".toList ∨ base.scheme = "https".toList := .inl rfl
  let own : Url := { base with
    path := .segments ["dl".toList, []], fragment := some ['f']
    query := some "jackett_apikey=S&path=a%20b&jackett%5Fapikey=T".toList }
  let other : Url := { scheme := "http".toList, host := some "tracker.example".toList
                       path := .segments ["get".toList], query := some "id=1".toList }
  have parsed : read link = some own := by decide +kernel
  have parsed_other : read foreign = some other := by decide +kernel
  have same : Url.sameOrigin read own base := by decide +kernel
  have apart : ¬Url.sameOrigin read other base := by decide +kernel
  have pairs : otherPairs own = [("path", "a b")] := by decide +kernel
  constructor
  · obtain ⟨v, again, -, -, -, -, fragment, all⟩ :=
      (e.authorize_stripKey lawful server web parsed).1 same
    exact ⟨v, again, fragment, by rw [all, pairs]; rfl⟩
  · exact (e.authorize_stripKey lawful server web parsed_other).2 apart

end Endpoint

end TorznabGateway.Jackett
