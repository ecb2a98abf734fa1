import TorznabGateway.Jackett.Link
import TorznabGateway.Proofs.Http.Segment
import TorznabGateway.Proofs.Outcome

/-!
# What the address of a search says

The address of a search is put together from texts of other people: the key and the name that
Jackett knows an indexer by, what was searched for, and an identifier of a title. Whatever these
texts are, the address has the parameters that it should have, with these texts as their values, and
the name is one segment of its path.

Segments are those of the address as it is written. Resolving an address gives the segments `.` and
`..` a meaning of their own, and nothing is said here of that.

## Main definitions

* `readQuery?`: the parameters of a query, read at the ampersands and equals signs.
* `Jackett.Endpoint.parameters`: the parameters of a search.

## Main statements

* `readQuery?_writeQuery`: parameters are read back from the query that is written for them.
* `Jackett.Endpoint.searchUrl_reads`: what is read from the address of a search.
-/
namespace TorznabGateway

open Text Encoding

/-! ## Queries -/

/-- The parameter that a piece between ampersands spells: its name stands in front of its first
equals sign. -/
def readParameter? (piece : List Char) : Option (String × String) := do
  let (name, value) := splitFirst '=' piece
  some (← Route.text? name, ← Route.text? value)

/-- The parameters of a query, in order. -/
def readQuery? (query : List Char) : Option (List (String × String)) :=
  (splitOn '&' query).mapM readParameter?

/-- A parameter with its value escaped. -/
def writeParameter (p : String × String) : List Char :=
  p.1.toList ++ '=' :: (Percent.encode p.2).toList

/-- Parameters with ampersands between them. -/
def writeQuery (ps : List (String × String)) : List Char :=
  joinWith ['&'] (ps.map writeParameter)

/-- Whether a name of a parameter can be written as it is. -/
def IsPlainName (name : String) : Prop :=
  ∀ c ∈ name.toList, c.toNat < 0x80 ∧ c ∉ ['%', '&', '=']

instance (name : String) : Decidable (IsPlainName name) :=
  List.decidableBAll _ name.toList

namespace Encoding.Percent

theorem separator_not_mem_encode (s : String) :
    '&' ∉ (encode s).toList ∧ '=' ∉ (encode s).toList := by
  have kept : ∀ b, isUnreserved b → Char.ofNat b.toNat ∉ ['&', '='] :=
    forall_byte (by decide +kernel)
  have digit : ∀ n < 16, Hex.upperDigit n ∉ ['&', '='] := by decide
  have every : ∀ c ∈ (encode s).toList, c ∉ ['&', '='] := by
    intro c hc
    rw [encode, String.toList_ofList, encodeBytes, List.mem_flatMap] at hc
    obtain ⟨b, -, hc⟩ := hc
    split at hc
    · next unreserved =>
      rw [List.mem_singleton.1 hc]
      exact kept b unreserved
    · rcases mem_escape hc with rfl | ⟨n, small, rfl⟩
      · decide
      · exact digit n small
  exact ⟨fun h => every _ h (by decide), fun h => every _ h (by decide)⟩

theorem text?_encode (s : String) : Route.text? (encode s).toList = some s := by
  have spelled : Route.SpelledAs (encode s).toList s := by
    rw [Route.SpelledAs, String.ofList_toList, decode_encode]
  exact spelled.text?

theorem encodeBytes_encodeChars {cs : List Char}
    (h : ∀ c ∈ cs, c.toNat < 0x80 ∧ isUnreserved (.ofNat c.toNat)) :
    encodeBytes isUnreserved (Utf8.encodeChars cs) = cs := by
  induction cs with
  | nil => rfl
  | cons c cs ih =>
    obtain ⟨⟨small, unreserved⟩, others⟩ := List.forall_mem_cons.1 h
    have same : (UInt8.ofNat c.toNat).toNat = c.toNat :=
      UInt8.toNat_ofNat_of_lt' (Nat.lt_trans small (by decide))
    rw [Utf8.encodeChars_cons, Utf8.encodeChar_of_lt small, encodeBytes, List.flatMap_append,
      ← encodeBytes, ← encodeBytes, ih others, encodeBytes, List.flatMap_singleton,
      if_pos unreserved, same, Char.ofNat_toNat, List.singleton_append]

theorem isUnreserved_of_isDigit {c : Char} (h : c.isDigit) :
    c.toNat < 0x80 ∧ isUnreserved (.ofNat c.toNat) := by
  have range : 48 ≤ c.toNat ∧ c.toNat ≤ 57 := by
    simpa [Char.isDigit, UInt32.le_iff_toNat_le] using h
  have same : (UInt8.ofNat c.toNat).toNat = c.toNat :=
    UInt8.toNat_ofNat_of_lt' (Nat.lt_of_le_of_lt range.2 (by decide))
  simp only [isUnreserved, same]
  simp
  omega

/-- Numerals are written as they are. -/
theorem encode_render (n : Nat) : encode (Decimal.render n) = Decimal.render n := by
  rw [encode, Decimal.render, Utf8.encode, String.toList_ofList, encodeBytes_encodeChars]
  exact fun c digit => isUnreserved_of_isDigit (Decimal.isDigit_of_mem digit)

end Encoding.Percent

theorem IsPlainName.text? {name : String} (h : IsPlainName name) :
    Route.text? name.toList = some name := by
  have plain : ∀ c ∈ name.toList, c.toNat < 0x80 ∧ c ≠ '%' :=
    fun c hc => ⟨(h c hc).1, fun same => (h c hc).2 (by simp [same])⟩
  rw [Route.text?, Percent.decodeBytes_encodeChars plain, ← Utf8.encode, Utf8.decode?_encode]

theorem IsPlainName.not_mem {name : String} (h : IsPlainName name) :
    '&' ∉ name.toList ∧ '=' ∉ name.toList :=
  ⟨fun hc => (h _ hc).2 (by decide), fun hc => (h _ hc).2 (by decide)⟩

theorem readParameter?_writeParameter {p : String × String} (h : IsPlainName p.1) :
    readParameter? (writeParameter p) = some p := by
  rw [readParameter?, writeParameter, splitFirst_append_cons _ h.not_mem.2]
  simp [h.text?, Percent.text?_encode]

theorem ampersand_not_mem_writeParameter {p : String × String} (h : IsPlainName p.1) :
    '&' ∉ writeParameter p := by
  simp [writeParameter, h.not_mem.1, (Percent.separator_not_mem_encode p.2).1]

/-- Parameters are read back from the query that is written for them, if their names are plain. -/
theorem readQuery?_writeQuery {ps : List (String × String)} (some_parameter : ps ≠ [])
    (plain : ∀ p ∈ ps, IsPlainName p.1) : readQuery? (writeQuery ps) = some ps := by
  have pieces : splitOn '&' (writeQuery ps) = ps.map writeParameter := by
    refine splitOn_joinWith (by simpa using some_parameter) ?_
    rw [List.forall_mem_map]
    exact fun p member => ampersand_not_mem_writeParameter (plain p member)
  have every : ∀ p ∈ ps, (readParameter? ∘ writeParameter) p = some p :=
    fun p member => readParameter?_writeParameter (plain p member)
  rw [readQuery?, pieces, List.mapM_map, mapM_eq_some every, List.map_id']

theorem writeQuery_cons (p : String × String) (ps : List (String × String)) :
    writeQuery (p :: ps) = writeParameter p ++ ps.flatMap fun p => '&' :: writeParameter p := by
  induction ps generalizing p with
  | nil => simp [writeQuery, joinWith]
  | cons q ps ih =>
    have rest := ih q
    rw [writeQuery, List.map_cons] at rest
    rw [writeQuery, List.map_cons, List.map_cons, joinWith, rest]
    simp

/-! ## Addresses -/

/-- The segments of an address in front of its first question mark. -/
def addressSegments (url : String) : List (List Char) :=
  splitOn '/' (splitFirst '?' url.toList).1

/-- The query of an address: what stands behind its first question mark. -/
def addressQuery (url : String) : List Char :=
  (splitFirst '?' url.toList).2

namespace Jackett.Endpoint

/-- The parameters of a search. -/
def parameters (e : Endpoint) (q : SearchQuery) : List (String × String) :=
  ("apikey", e.apiKey) :: ("Query", q.searchText)
    :: (q.categories.map (fun c => ("Category[]", Decimal.render c))
      ++ (q.imdbId.map fun id => ("imdbid", id)).toList
      ++ (q.tmdbId.map fun n => ("tmdbid", Decimal.render n)).toList)

theorem isPlainName_of_mem_parameters {e : Endpoint} {q : SearchQuery} {p : String × String}
    (h : p ∈ e.parameters q) : IsPlainName p.1 := by
  have names : p.1 ∈ ["apikey", "Query", "Category[]", "imdbid", "tmdbid"] := by
    simp only [parameters, List.mem_cons, List.mem_append, List.mem_map, Option.mem_toList,
      Option.map_eq_some_iff] at h
    rcases h with rfl | rfl | (⟨c, -, rfl⟩ | ⟨id, -, rfl⟩) | ⟨n, -, rfl⟩ <;> simp
  have plain :
      ∀ name ∈ ["apikey", "Query", "Category[]", "imdbid", "tmdbid"], IsPlainName name := by
    decide
  exact plain _ names

/-- The address of a search is that of the results with the parameters of the search. -/
theorem toList_searchUrl (e : Endpoint) (q : SearchQuery) :
    (e.searchUrl q).toList = e.resultsUrl.toList ++ '?' :: writeQuery (e.parameters q) := by
  have categories :
      (String.join (q.categories.map fun c => "&Category[]=" ++ Decimal.render c)).toList
        = q.categories.flatMap fun c => '&' :: writeParameter ("Category[]", Decimal.render c) := by
    induction q.categories with
    | nil => rfl
    | cons c cs ih => simp [ih, writeParameter, Percent.encode_render]
  rw [parameters, writeQuery_cons]
  cases imdb : q.imdbId <;> cases tmdb : q.tmdbId <;>
    simp [searchUrl, imdb, tmdb, categories, writeParameter, Percent.encode_render,
      List.flatMap_map]

theorem toList_resultsUrl (e : Endpoint) :
    e.resultsUrl.toList = e.baseUrl.toList ++ '/' :: joinWith ['/']
      ["api".toList, "v2.0".toList, "indexers".toList, (Percent.encode e.id).toList,
        "results".toList] := by
  simp [resultsUrl, joinWith]

theorem question_not_mem_resultsUrl {e : Endpoint} (unmarked : '?' ∉ e.baseUrl.toList) :
    '?' ∉ e.resultsUrl.toList := by
  have id : '?' ∉ (Percent.encode e.id).toList :=
    fun h => (Percent.inSegment_of_mem_encode h).2.1 rfl
  simp [resultsUrl, unmarked, id]

/-- What is read from the address of a search, for every key, every name of an indexer and every
search: the parameters of the search and no others, and behind the address of the server the usual
segments with one that stands for the name. -/
theorem searchUrl_reads (e : Endpoint) (q : SearchQuery) (unmarked : '?' ∉ e.baseUrl.toList) :
    readQuery? (addressQuery (e.searchUrl q)) = some (e.parameters q)
      ∧ ∃ segment, Route.text? segment = some e.id
        ∧ addressSegments (e.searchUrl q) = splitOn '/' e.baseUrl.toList
          ++ ["api".toList, "v2.0".toList, "indexers".toList, segment, "results".toList] := by
  have parts : splitFirst '?' (e.searchUrl q).toList
      = (e.resultsUrl.toList, writeQuery (e.parameters q)) := by
    rw [toList_searchUrl, splitFirst_append_cons _ (question_not_mem_resultsUrl unmarked)]
  refine ⟨?query, (Percent.encode e.id).toList, Percent.text?_encode e.id, ?path⟩
  case query =>
    rw [addressQuery, parts]
    exact readQuery?_writeQuery (List.cons_ne_nil _ _) fun p => isPlainName_of_mem_parameters
  case path =>
    have whole : '/' ∉ (Percent.encode e.id).toList :=
      fun h => (Percent.inSegment_of_mem_encode h).1 rfl
    rw [addressSegments, parts, toList_resultsUrl, splitOn_append_separator,
      splitOn_joinWith (List.cons_ne_nil _ _)]
    simpa using whole

/-- Texts that are full of delimiters, behind an address that has some already. -/
theorem searchUrl_reads_delimiters :
    let e : Endpoint := ⟨"http://jackett:9117/a=b&c", "k&t=x#?", "../é%2F/x"⟩
    let q : SearchQuery :=
      { function := .movie, text := " a&apikey=z?b ", categories := [2000, 5000],
        imdbId := some "tt1&Query=" }
    '?' ∉ e.baseUrl.toList
      ∧ readQuery? (addressQuery (e.searchUrl q)) = some
        [("apikey", "k&t=x#?"), ("Query", "a&apikey=z?b"), ("Category[]", "2000"),
          ("Category[]", "5000"), ("imdbid", "tt1&Query=")]
      ∧ ∃ segment, Route.text? segment = some "../é%2F/x"
        ∧ addressSegments (e.searchUrl q) = ["http:".toList, [], "jackett:9117".toList,
          "a=b&c".toList, "api".toList, "v2.0".toList, "indexers".toList, segment,
          "results".toList] := by
  intro e q
  have unmarked : '?' ∉ e.baseUrl.toList := by decide
  have base : splitOn '/' e.baseUrl.toList
      = ["http:".toList, [], "jackett:9117".toList, "a=b&c".toList] := by decide
  obtain ⟨query, segment, text, path⟩ := searchUrl_reads e q unmarked
  rw [base] at path
  exact ⟨unmarked, query.trans (by decide +kernel), segment, text, path⟩

end Jackett.Endpoint

end TorznabGateway
