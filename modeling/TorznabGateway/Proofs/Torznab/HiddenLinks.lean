import TorznabGateway.Indexer.Scripted
import TorznabGateway.Proofs.Torznab.Redaction
import TorznabGateway.Search.Sample

/-!
# Links stay hidden

Two searches with one query and one history, whose items differ in their links only, have documents
that differ in the tokens of download links and in the states of items. So a client learns nothing
of a link but its token, and whether the item changed since it was last seen.

## Main statements

* `SearchAggregator.redacted_documents_eq`: the redacted documents of the two searches are the same,
  in every format.
-/
namespace TorznabGateway

open Time

/-- The redacted document of a search's result, or the error of the search. A feed with a date that
cannot be written has no document. -/
def AggregateOutcome.redactedDocument (secret : SharedSecret) (about : FeedMeta)
    (format : FeedFormat) (o : AggregateOutcome) : Except AggregateError (Option EncodedFeed) :=
  o.result.map fun r =>
    (Feed.encode? ⟨about, r.items.map .tracked⟩ format).map (Feed.redacted secret format)

/-- Results whose entries were issued alike have the same redacted documents. -/
theorem AggregateOutcome.IssuedAlike.redactedDocument_eq {publicUrl : String}
    {secret : SharedSecret} {o o' : AggregateOutcome}
    (h : o.IssuedAlike (.new publicUrl secret) o') (about : FeedMeta) (format : FeedFormat) :
    o.redactedDocument secret about format = o'.redactedDocument secret about format := by
  rcases h with ⟨e, failed, failed'⟩ | ⟨r, r', some_result, some_result', items⟩
  · rw [redactedDocument, redactedDocument, failed, failed']
  · have entries : List.Forall₂ (ResultItem.SameButLink secret) (r.items.map .tracked)
        (r'.items.map .tracked) := by
      rw [List.forall₂_map_left_iff, List.forall₂_map_right_iff]
      exact items.imp fun _ _ => TrackedItem.IssuedAlike.sameButLink
    rw [redactedDocument, redactedDocument, some_result, some_result']
    exact congrArg Except.ok (Feed.redacted_encode?_eq entries format)

namespace SearchAggregator

/-- Two searches for one query with the same earlier sightings and the same supply of identifiers.
What arrives at them differs in the links of items only; these are neither empty nor magnet links,
and every item has an identifier of its own. Then both fail with the same error, or their documents
are the same in every format, once the tokens in download links are masked and, in JSON, the states
of items are left out. The same holds if the sources of the two searches differ in this way. -/
theorem redacted_documents_eq (a : SearchAggregator) (publicUrl : String) (secret : SharedSecret)
    (issuer : a.issuer = .new publicUrl secret) (wall : Nat → Moment) (now : Nat) (q : SearchQuery)
    (seen : SeenStore) (about : FeedMeta) (format : FeedFormat) :
    (∀ sources arriving arriving', Arrival.SameButLinks arriving arriving' →
      (a.consume wall sources now q seen arriving).redactedDocument secret about format
        = (a.consume wall sources now q seen arriving').redactedDocument secret about format)
    ∧ ∀ indexers indexers', a.SameSources now q indexers indexers' →
      (a.search wall indexers now q seen).redactedDocument secret about format
        = (a.search wall indexers' now q seen).redactedDocument secret about format := by
  constructor
  · intro sources arriving arriving' same
    have alike := consume_of_unlinked same a wall sources now q seen
    rw [issuer] at alike
    exact alike.redactedDocument_eq about format
  · intro indexers indexers' same
    have alike := search_of_unlinked same wall seen
    rw [issuer] at alike
    exact alike.redactedDocument_eq about format

/-- An item whose title looks like a part of a download path. -/
def sampleEntry (link : String) (sourceLink : Option String) : Item :=
  { Sample.webItem "a" "1" "x/d/y" with link, sourceLink }

/-- A source with one page that holds one item. -/
def sampleShelf (i : Item) : Indexer :=
  ({ name := "a", steps := [.ok [i]] } : Script).toIndexer

/-- One of the two items has a source link, and that is a magnet link. A source that fails is asked
beside the one that has the item. -/
theorem redacted_documents_eq_magnet :
    let secret : SharedSecret := ⟨[1], .random⟩
    let a : SearchAggregator := { issuer := .new "http://nab.example/" secret, ids := default }
    let q : SearchQuery := { function := .search }
    let about : FeedMeta := ⟨"", "", "", "", "", Sample.published⟩
    let one := sampleEntry "http://origin.example/1" none
    let two := sampleEntry "http://origin.example/2" (some "magnet:?xt=3")
    let arriving (i : Item) : List Arrival := [⟨5, .failed "b" .timeout⟩, ⟨7, .page "a" [i]⟩]
    let consumed i format := (a.consume (fun _ => Sample.published) 2 0 q (.new 1 1)
      (arriving i)).redactedDocument secret about format
    let searched i format := (a.search (fun _ => Sample.published) [sampleShelf i] 0 q
      (.new 1 1)).redactedDocument secret about format
    (a.issuer = .new "http://nab.example/" secret
      ∧ Arrival.SameButLinks (arriving one) (arriving two)
      ∧ a.SameSources 0 q [sampleShelf one] [sampleShelf two])
    ∧ (∃ document, consumed one .json = .ok (some document))
    ∧ ∀ format, consumed one format = consumed two format
      ∧ searched one format = searched two format := by
  intro secret a q about one two arriving consumed searched
  have concealable : one.Concealable ∧ two.Concealable :=
    ⟨⟨by decide, by decide, by decide⟩, ⟨by decide, by decide, by decide⟩⟩
  have arrivals : Arrival.SameButLinks (arriving one) (arriving two) := by
    refine ⟨rfl, ?_⟩
    simp [arriving, SourceEvent.page?, concealable]
  have sources : a.SameSources 0 q [sampleShelf one] [sampleShelf two] := by
    refine ⟨rfl, ?_⟩
    have pages (i : Item) :
        contribution (a.pageBudget q) ((sampleShelf i).search 0 q) = [[i]] := rfl
    simp [pages, concealable]
  refine ⟨⟨rfl, arrivals, sources⟩, ⟨_, rfl⟩, fun format => ?_⟩
  have same := redacted_documents_eq a "http://nab.example/" secret rfl
    (fun _ => Sample.published) 0 q (.new 1 1) about format
  exact ⟨same.1 2 _ _ arrivals, same.2 _ _ sources⟩

end SearchAggregator

end TorznabGateway
