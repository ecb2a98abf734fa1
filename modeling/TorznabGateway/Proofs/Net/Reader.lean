import TorznabGateway.Net.Url.Origin
import TorznabGateway.Proofs.Net.Query

/-!
# Readers of URLs

What is relied on of a reader of URLs, where a link is taken apart, gets another query, and is sent
to be read again. The origin of a URL does not depend on its query, whatever the reader.

## Main definitions

* `Url.Reader.Lawful`: readers that get back what is written with another query.

## Main statements

* `Url.origin?_withQuery`: the origin does not depend on the query.
* `Url.Reader.Lawful.again_withPairs`, `Url.Reader.Lawful.again_appendPair`: what is read of a link
  whose pairs were changed.
-/
namespace TorznabGateway.Url

variable {read : Reader} {s : String} {u : Url}

/-- Whether the origin of a URL is that of a web server. -/
def OfWeb (read : Reader) (u : Url) : Prop :=
  ∃ o ∈ origin? read u, o.scheme = "http".toList ∨ o.scheme = "https".toList

/-- What is relied on of a reader of URLs. -/
structure Reader.Lawful (read : Reader) : Prop where
  /-- The query of what is read needs no more escapes. -/
  query : ∀ {s : String} {u : Url}, read s = some u → u.QueryEscaped
  /-- What is read of a web server is read back from its text, with any other query as well. -/
  again : ∀ {s : String} {u : Url}, read s = some u → u.OfWeb read →
    ∀ {query : Option (List Char)}, QueryEscaped { u with query } →
      read (render { u with query }) = some { u with query }

/-! ## Origins -/

theorem origin?_withQuery (read : Reader) (u : Url) (query : Option (List Char)) :
    origin? read { u with query } = origin? read u :=
  rfl

theorem sameOrigin_withQuery (read : Reader) (u v : Url) (query : Option (List Char)) :
    sameOrigin read { u with query } v = sameOrigin read u v := by
  rw [sameOrigin, sameOrigin, origin?_withQuery]

theorem origin?_of_ne_blob (scheme : u.scheme ≠ "blob".toList) :
    origin? read u = match defaultPort? u.scheme, u.host with
      | some usual, some host => some ⟨u.scheme, host, u.port.getD usual⟩
      | _, _ => none := by
  rw [origin?, originWithin?]
  exact if_neg scheme

/-- The origin of a URL that is no `blob` URL has its scheme. -/
theorem scheme_of_origin? {o : Origin} (scheme : u.scheme ≠ "blob".toList)
    (h : origin? read u = some o) : o.scheme = u.scheme := by
  rw [origin?_of_ne_blob scheme] at h
  split at h
  · exact Option.some.inj h ▸ rfl
  · simp at h

/-- What has the origin of a web server's URL is of a web server. -/
theorem ofWeb_of_sameOrigin {base : Url}
    (web : base.scheme = "http".toList ∨ base.scheme = "https".toList)
    (same : sameOrigin read u base) : u.OfWeb read := by
  have no_blob : base.scheme ≠ "blob".toList := by
    rcases web with web | web <;> rw [web] <;> decide
  unfold sameOrigin at same
  split at same
  · next o own =>
    refine ⟨o, own, ?_⟩
    rwa [scheme_of_origin? no_blob (eq_of_beq same)]
  · contradiction

namespace Reader.Lawful

variable (lawful : read.Lawful) (parsed : read s = some u) (web : u.OfWeb read)
include lawful parsed web

/-- A link with other pairs is read as the link with these pairs. -/
theorem again_withPairs (pairs : List (String × String)) :
    read (u.withPairs pairs).render = some (u.withPairs pairs) :=
  lawful.again parsed web (queryEscaped_withPairs u pairs)

/-- A link to which a pair was added is read as the link with this pair. -/
theorem again_appendPair (pair : String × String) :
    read (u.appendPair pair).render = some (u.appendPair pair) :=
  lawful.again parsed web ((lawful.query parsed).appendPair pair)

end Reader.Lawful

end TorznabGateway.Url
