import TorznabGateway.Jackett.Result
import TorznabGateway.Proofs.Download.Link
import TorznabGateway.Proofs.Net.Query

/-!
# Which links hold the key

A link of a result loses the key on its way into an item, and with it into the tokens that are
signed for the item. A magnet link, which stands in where a result has no link, goes its way as it
came. This is so for URLs as they are read with any way to bring domain names into ASCII.

## Main definitions

* `Jackett.HasKey`: the links whose query has the key, however it is spelled.

## Main statements

* `Jackett.not_hasKey_stripKey`: nothing is left of the key, however often it was there.
* `Jackett.Result.hasKey_link_iff`: the items whose link holds the key.
-/
namespace TorznabGateway.Jackett

open Text

variable {toAscii : Url.DomainToAscii}

/-- Whether a link is a URL whose query has the key. -/
def HasKey (read : Url.Reader) (link : String) : Prop :=
  ∃ url ∈ read link, keyParameter ∈ url.queryPairs.map (·.1)

instance (read : Url.Reader) (link : String) : Decidable (HasKey read link) :=
  inferInstanceAs (Decidable (∃ url ∈ read link, _))

/-- The pairs of a link without the key are the other pairs of the link. -/
theorem queryPairs_of_parse?_stripKey {link : String} {given url : Url}
    (read : Url.parse? toAscii link = some given)
    (stripped : Url.parse? toAscii (stripKey (Url.parse? toAscii) link) = some url) :
    url.queryPairs = given.queryPairs.filter (·.1 != keyParameter) := by
  rw [stripKey, read] at stripped
  dsimp only at stripped
  split at stripped
  · exact Url.queryPairs_of_parse?_withPairs (Url.escaped_of_parse? read) _ stripped
  · next absent =>
    obtain rfl := Option.some.inj (read.symm.trans stripped)
    symm
    rw [List.filter_eq_self]
    intro pair hp
    simp only [List.any_eq_true, not_exists, not_and] at absent
    simpa using absent pair hp

theorem not_hasKey_stripKey (link : String) :
    ¬HasKey (Url.parse? toAscii) (stripKey (Url.parse? toAscii) link) := by
  rintro ⟨url, stripped, key⟩
  cases read : Url.parse? toAscii link with
  | none => simp [stripKey, read] at stripped
  | some given =>
    rw [queryPairs_of_parse?_stripKey read stripped] at key
    obtain ⟨pair, hp, name⟩ := List.mem_map.1 key
    have other := (List.mem_filter.1 hp).2
    simp [name] at other

namespace Result

variable {r : Result} {site : String} {item : Item}

theorem itemLink?_of_toItem? {read : Url.Reader} (made : r.toItem? read site = some item) :
    r.itemLink? read = some item.link ∧ item.site = site ∧ item.canonicalLink = item.link := by
  obtain ⟨link, chosen, rfl⟩ := Option.map_eq_some_iff.1 made
  exact ⟨chosen, rfl, rfl⟩

/-- The link of an item holds the key only if it is a magnet link that came with it. Otherwise it is
the result's own link, with the other pairs of its query. A token for the item is signed for this
link. -/
theorem hasKey_link_iff (secret : SharedSecret)
    (made : r.toItem? (Url.parse? toAscii) site = some item) :
    (HasKey (Url.parse? toAscii) item.link
      ↔ r.link = none ∧ ∃ magnet ∈ r.magnetUri, HasKey (Url.parse? toAscii) magnet)
    ∧ (∀ link ∈ r.link, ∀ given ∈ Url.parse? toAscii link, ∀ url ∈ Url.parse? toAscii item.link,
        url.queryPairs = given.queryPairs.filter (·.1 != keyParameter))
    ∧ (DownloadToken.decode (.ofList (LinkIssuer.tokenOf secret item)) secret).1
        = .ok ⟨site, item.link⟩ := by
  obtain ⟨chosen, rfl, link⟩ := itemLink?_of_toItem? made
  unfold itemLink? at chosen
  have signed := DownloadToken.decode_wireForm ⟨item.site, item.canonicalLink⟩ secret
  rw [← LinkIssuer.tokenOf, link] at signed
  refine ⟨?key, ?pairs, congrArg Prod.fst signed⟩
  case key =>
    cases own : r.link with
    | some given =>
      rw [own] at chosen
      rw [← Option.some.inj chosen]
      simp [not_hasKey_stripKey]
    | none =>
      rw [own] at chosen
      simp [show r.magnetUri = some item.link from chosen]
  case pairs =>
    intro given own parsed read url stripped
    rw [Option.mem_def.1 own] at chosen
    rw [← Option.some.inj chosen] at stripped
    exact queryPairs_of_parse?_stripKey read stripped

/-- A link with the key twice, once in another spelling. -/
theorem hasKey_link_iff_repeated :
    let read : Url.Reader := Url.parse? Url.asciiDomain?
    let link := "http://jackett:9117/dl/tpb/?jackett_apikey=S&path=a%20b&jackett%5Fapikey=T#f"
    let r : Result := { title := "T", link := some link, magnetUri := some "magnet:?xt=1" }
    ∃ item, r.toItem? read "tpb" = some item ∧ HasKey read link ∧ ¬HasKey read item.link
      ∧ item.link = "http://jackett:9117/dl/tpb/?path=a+b#f" := by
  intro read link r
  obtain ⟨item, made⟩ : ∃ item, r.toItem? read "tpb" = some item := ⟨_, rfl⟩
  have chosen := (itemLink?_of_toItem? made).1
  have stripped : stripKey read link = "http://jackett:9117/dl/tpb/?path=a+b#f" := by
    decide +kernel
  refine ⟨item, made, by decide +kernel, ?_, ?_⟩
  · rw [(hasKey_link_iff (.derive [] "" []) made).1]
    simp [r]
  · rw [← stripped]
    exact (Option.some.inj chosen).symm

/-- A magnet link goes into an item with the key that it has, and a token is signed for it. -/
theorem magnet_keeps_key :
    let read : Url.Reader := Url.parse? Url.asciiDomain?
    let magnet := "http://jackett:9117/dl/tpb/?jackett_apikey=S&path=abc"
    let r : Result := { title := "T", guid := some "g", magnetUri := some magnet }
    ∃ item, r.toItem? read "tpb" = some item ∧ item.canonicalLink = magnet
      ∧ LinkIssuer.replaces item ∧ HasKey read item.link := by
  exact ⟨_, rfl, rfl, by decide +kernel, by decide +kernel⟩

end Result

end TorznabGateway.Jackett
