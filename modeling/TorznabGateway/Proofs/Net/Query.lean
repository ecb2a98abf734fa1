import TorznabGateway.Proofs.Encoding.Form
import TorznabGateway.Proofs.Net.Escaped

/-!
# The query of a URL is read back

A URL that was read, and was written with other pairs for its query, has these pairs when it is read
again. Nothing in front of the query is taken for it, since no mark is left there; and nothing of
what is written for pairs is dropped or escaped once more.

## Main definitions

* `Url.QueryEscaped`: URLs whose query needs no more escapes.

## Main statements

* `Url.query_of_parse?_render`: the query of a written URL when it is read again.
* `Url.queryPairs_of_parse?_withPairs`: the pairs that were written are read.
-/
namespace TorznabGateway.Url

open Text Encoding

/-! ## Reading again -/

theorem Escaped.visible {u : Url} (h : u.Escaped) :
    ∀ c ∈ behind '?' u.query ++ behind '#' u.fragment, 0x20 < c.toNat := by
  intro c hc
  rcases List.mem_append.1 hc with query | fragment
  · rcases mem_behind query with rfl | query
    · decide
    · exact (h.query c query).1
  · rcases mem_behind fragment with rfl | fragment
    · decide
    · exact h.fragment c fragment

/-- Where the text of a URL is cut when it is read again. Of what stands in front of the query,
blanks may be lost. -/
theorem Escaped.splitAtMark_render {u : Url} (h : u.Escaped) :
    ∃ head, '?' ∉ head ∧ splitAtMark '#' (clean u.render.toList)
      = (head ++ behind '?' u.query, u.fragment) := by
  obtain ⟨head, sub, cleaned⟩ := exists_clean_append u.headChars h.visible
  have unmarked : Unmarked head := fun c hc => h.headChars c (sub.mem hc)
  have no_fragment : '#' ∉ head ++ behind '?' u.query := by
    intro hc
    rcases List.mem_append.1 hc with hc | query
    · exact (unmarked _ hc).2 rfl
    · rcases mem_behind query with mark | query
      · exact absurd mark (by decide)
      · exact (h.query _ query).2 rfl
  refine ⟨head, fun hq => (unmarked _ hq).1 rfl, splitAtMark_eq_iff.2 ⟨no_fragment, ?_⟩⟩
  rw [toList_render, cleaned, List.append_assoc]

/-- The query of a written URL is read again, as it is escaped in a web-like scheme or in another
one. -/
theorem query_of_parse?_render {toAscii : DomainToAscii} {u v : Url} (h : u.Escaped)
    (parsed : parse? toAscii u.render = some v) :
    ∃ isSpecial, v.query = u.query.map (escapeSet (querySet isSpecial)) := by
  obtain ⟨scheme, rest, w, front, -, rfl⟩ := parse?_eq_some_iff.1 parsed
  obtain ⟨written, allowed, -, text⟩ := readScheme?_eq_some front
  obtain ⟨head, no_query, cut⟩ := h.splitAtMark_render
  rw [cut] at text
  have in_text : splitAtMark '?' (written ++ ':' :: rest) = (head, u.query) :=
    splitAtMark_eq_iff.2 ⟨no_query, text.symm⟩
  -- No mark is in the scheme, so the query is the same behind the colon.
  have in_front : '?' ∉ written ++ [':'] := by
    have plain := InScheme.unmarked allowed
    simpa using fun hq => (plain _ hq).1 rfl
  rw [List.append_cons, splitAtMark_append in_front, Prod.mk.injEq] at in_text
  exact ⟨_, by rw [in_text.2]⟩

/-! ## Pairs -/

/-- Whether nothing in the query of a URL has to be escaped. -/
def QueryEscaped (u : Url) : Prop :=
  u.query.map (escapeSet (querySet (isSpecialScheme u.scheme))) = u.query

instance (u : Url) : Decidable u.QueryEscaped :=
  inferInstanceAs (Decidable (_ = _))

theorem queryPairs_withPairs (u : Url) (pairs : List (String × String)) :
    (u.withPairs pairs).queryPairs = pairs := by
  unfold withPairs queryPairs
  split
  · next none =>
    rw [List.isEmpty_iff.1 none]
    rfl
  · exact Form.parse_serialize pairs

/-- A pair that is added stands behind the others. -/
theorem queryPairs_appendPair (u : Url) (pair : String × String) :
    (u.appendPair pair).queryPairs = u.queryPairs ++ [pair] := by
  unfold appendPair queryPairs
  dsimp only [Option.getD_some]
  split
  · next empty =>
    rw [List.isEmpty_iff.1 empty]
    exact Form.parse_serialize [pair]
  · have separator : Utf8.encodeChar '&' = [0x26] := by decide
    rw [Utf8.encodeChars_append, Utf8.encodeChars_cons, separator]
    exact Form.parse_append_encodePair _ pair

/-- What is written for pairs is not escaped in a query. -/
theorem visible_of_inComponent {c : Char} (h : Form.InComponent c ∨ c = '=' ∨ c = '&') :
    0x20 < c.toNat ∧ c.toNat < 0x7F ∧ ∀ isSpecial, c ∉ querySet isSpecial := by
  rcases h with ⟨low, high, plain⟩ | rfl | rfl
  · refine ⟨low, high, fun isSpecial => ?_⟩
    have blank : c ≠ ' ' := by
      rintro rfl
      exact absurd low (by decide)
    cases isSpecial <;> simp_all [querySet]
  · decide
  · decide

theorem visible_of_mem_withPairs {u : Url} {pairs : List (String × String)} {c : Char}
    (h : c ∈ (u.withPairs pairs).query.getD []) :
    0x20 < c.toNat ∧ c.toNat < 0x7F ∧ ∀ isSpecial, c ∉ querySet isSpecial := by
  have written : c ∈ Form.serialize pairs := by
    unfold withPairs at h
    split at h
    · simp at h
    · exact h
  exact visible_of_inComponent (Form.mem_serialize written)

theorem Escaped.withPairs {u : Url} (h : u.Escaped) (pairs : List (String × String)) :
    (u.withPairs pairs).Escaped where
  scheme := h.scheme
  username := h.username
  password := h.password
  host := h.host
  path := h.path
  query c hc := by
    obtain ⟨low, -, plain⟩ := visible_of_mem_withPairs hc
    refine ⟨low, ?_⟩
    rintro rfl
    exact plain true (by decide)
  fragment := h.fragment

theorem map_escapeSet_withPairs (u : Url) (pairs : List (String × String)) (isSpecial : Bool) :
    (u.withPairs pairs).query.map (escapeSet (querySet isSpecial)) = (u.withPairs pairs).query := by
  cases written : (u.withPairs pairs).query with
  | none => rfl
  | some cs =>
    rw [Option.map_some, escapeSet_of_kept]
    intro c hc
    have := visible_of_mem_withPairs (u := u) (c := c) (by rw [written]; exact hc)
    exact ⟨by omega, by omega, this.2.2 isSpecial⟩

/-- The query that is written for pairs needs no more escapes. -/
theorem queryEscaped_withPairs (u : Url) (pairs : List (String × String)) :
    (u.withPairs pairs).QueryEscaped :=
  map_escapeSet_withPairs u pairs _

/-- The pairs with which a URL was written are read. -/
theorem queryPairs_of_parse?_withPairs {toAscii : DomainToAscii} {u v : Url} (h : u.Escaped)
    (pairs : List (String × String)) (parsed : parse? toAscii (u.withPairs pairs).render = some v) :
    v.queryPairs = pairs := by
  obtain ⟨isSpecial, query⟩ := query_of_parse?_render (h.withPairs pairs) parsed
  rw [queryPairs, query, map_escapeSet_withPairs, ← queryPairs, queryPairs_withPairs]

theorem escapeSet_append (special cs ds : List Char) :
    escapeSet special (cs ++ ds) = escapeSet special cs ++ escapeSet special ds := by
  simp [escapeSet, Percent.encodeBytes]

/-- Nor does a query to which a pair is added. -/
theorem QueryEscaped.appendPair {u : Url} (h : u.QueryEscaped) (pair : String × String) :
    (u.appendPair pair).QueryEscaped := by
  have added (isSpecial : Bool) :
      escapeSet (querySet isSpecial) (Form.encodePair pair) = Form.encodePair pair := by
    refine escapeSet_of_kept fun c hc => ?_
    have := visible_of_inComponent ((Form.mem_encodePair hc).imp_right .inl)
    exact ⟨by omega, by omega, this.2.2 isSpecial⟩
  have separator (isSpecial : Bool) : escapeSet (querySet isSpecial) ['&'] = ['&'] := by
    cases isSpecial <;> decide
  have given : escapeSet (querySet (isSpecialScheme u.scheme)) (u.query.getD [])
      = u.query.getD [] := by
    unfold QueryEscaped at h
    cases query : u.query with
    | none => rfl
    | some cs =>
      rw [query] at h
      exact Option.some.inj h
  rw [QueryEscaped, Url.appendPair]
  dsimp only
  rw [Option.map_some]
  split
  · rw [added]
  · rw [List.append_cons, escapeSet_append, escapeSet_append, given, separator, added]

end TorznabGateway.Url
