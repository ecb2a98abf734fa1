import TorznabGateway.Proofs.Search.Failures
import TorznabGateway.Proofs.Search.Sightings
import TorznabGateway.Proofs.Token.Issue

/-!
# Tracked items

A search that succeeds compares the items of its window with earlier sightings, one after another,
and only then replaces their links. So identifiers, states and fingerprints are those of the items
as the sources sent them, an item that comes twice is already known the second time, and items
outside the window leave no trace.

## Main definitions

* `Observation.state?`: the state that an observation counts.

## Main statements

* `LinkIssuer.issue_of_web`: a link that is replaced holds a token that is read back.
* `Tracked.items_eq_mapIdx`, `Tracked.seen_foldl_add`: what is tracked of items one after another.
* `SearchAggregator.tracks_window`: everything that a successful search counts, answers and stores.
-/
namespace TorznabGateway

open Time Encoding

/-! ## Issued links -/

namespace LinkIssuer

/-- The link of an item on the web is replaced by one with a token that is read back as the site
and the link of the item. -/
theorem issue_of_web (r : LinkIssuer) {i : Item} (link : i.link ≠ "") (web : i.isMagnet = false) :
    ∃ wire, (r.issue i).1 =
        { i with
          link := r.baseUrl ++ "/" ++ wire ++ "/" ++ Percent.encode (fileStem i.title) ++ ".torrent"
          sourceLink := none }
      ∧ DownloadToken.decode wire r.secret = (.ok ⟨i.site, i.canonicalLink⟩, []) := by
  have replaced : replaces i = true := by simp [replaces, link, web]
  rw [issue, if_pos replaced]
  exact ⟨_, rfl, DownloadToken.decode_wireForm ⟨i.site, i.canonicalLink⟩ r.secret⟩

/-- An item without a link, or with a magnet link, stays as it is. -/
theorem issue_of_not_replaces (r : LinkIssuer) {i : Item} (kept : i.link = "" ∨ i.isMagnet = true) :
    (r.issue i).1 = i := by
  have kept : ¬replaces i = true := by
    rcases kept with link | magnet <;> simp [replaces, *]
  rw [issue, if_neg kept]

theorem count_tokenIssued_issue (r : LinkIssuer) (i : Item) :
    (r.issue i).2.count .tokenIssued = if i.link ≠ "" ∧ i.isMagnet = false then 1 else 0 := by
  by_cases replaced : i.link ≠ "" ∧ i.isMagnet = false
  · simp [issue, replaces, replaced, DownloadToken.encode]
  · simp [issue, replaces, replaced]

end LinkIssuer

/-! ## Items one after another -/

/-- The state that an observation counts. -/
def Observation.state? : Observation → Option ItemState
  | .classified state => some state
  | _ => none

namespace Tracked

variable {ids : Nat → Uuid} {issuer : LinkIssuer} {now : Nat} {t : Tracked} {items : List Item}

/-- Every item is compared with the store as the items before it left it. -/
theorem items_eq_mapIdx : (items.foldl (add ids issuer now) t).items
    = t.items ++ items.mapIdx fun k i =>
      let answer := (SeenStore.after ids t.seen ((items.take k).map (now, ·))).classify ids now i
      ⟨(issuer.issue i).1, answer.1, i.fingerprint, answer.2.1⟩ := by
  induction items generalizing t with
  | nil => simp
  | cons i rest ih =>
    rw [List.foldl_cons, ih]
    simp [add, List.mapIdx_cons]

theorem seen_foldl_add : (items.foldl (add ids issuer now) t).seen
    = SeenStore.after ids t.seen (items.map (now, ·)) := by
  induction items generalizing t with
  | nil => rfl
  | cons i rest ih =>
    rw [List.foldl_cons, ih]
    rfl

theorem states_foldl_add
    (counted : t.observed.filterMap Observation.state? = t.items.map (·.state)) :
    (items.foldl (add ids issuer now) t).observed.filterMap Observation.state?
      = (items.foldl (add ids issuer now) t).items.map (·.state) := by
  induction items generalizing t with
  | nil => exact counted
  | cons i rest ih =>
    rw [List.foldl_cons]
    refine ih ?_
    have silent : (issuer.issue i).2.filterMap Observation.state? = [] := by
      unfold LinkIssuer.issue
      split <;> rfl
    simp [add, counted, silent, Observation.state?]

theorem count_tokenIssued_foldl_add :
    (items.foldl (add ids issuer now) t).observed.count .tokenIssued
      = t.observed.count .tokenIssued + items.countP fun i => i.link ≠ "" ∧ i.isMagnet = false := by
  induction items generalizing t with
  | nil => rfl
  | cons i rest ih =>
    rw [List.foldl_cons, ih, List.countP_cons]
    simp [add, LinkIssuer.count_tokenIssued_issue]
    omega

end Tracked

/-! ## Searches -/

/-- Collecting observes nothing but failures. -/
theorem Collected.observed_collect {accepts : Nat → Item → Bool} {wanted : Nat} {c : Collected}
    {arriving : List Arrival}
    (only : ∀ x ∈ c.observed, ∃ source kind, x = .sourceFailed source kind) :
    ∀ x ∈ (collect accepts wanted c arriving).observed,
      ∃ source kind, x = .sourceFailed source kind := by
  induction arriving generalizing c with
  | nil => exact only
  | cons x rest ih =>
    have step : ∀ y ∈ (look accepts c x).observed,
        ∃ source kind, y = .sourceFailed source kind := by
      unfold look
      cases x.event with
      | page source items => exact only
      | done source pages => exact only
      | failed source error =>
        intro y hy
        rcases List.mem_append.1 hy with hy | hy
        · exact only y hy
        · exact ⟨source, error.kind, List.mem_singleton.1 hy⟩
    rw [collect_cons]
    split
    · exact step
    · exact ih step

theorem ItemState.countP_add_countP_add_countP (items : List TrackedItem) :
    items.countP (·.state = .new) + items.countP (·.state = .updated)
      + items.countP (·.state = .unchanged) = items.length := by
  induction items with
  | nil => rfl
  | cons i rest ih =>
    cases state : i.state <;> simp [state] <;> omega

namespace SearchAggregator

variable {wall : Nat → Moment} {sources now : Nat} {q : SearchQuery}
  {arriving : List Arrival}

/-- Collecting counts neither states nor tokens. -/
theorem observed_collected (wall : Nat → Moment) (now : Nat) (q : SearchQuery)
    (arriving : List Arrival) :
    (collected wall now q arriving).observed.filterMap Observation.state? = []
      ∧ (collected wall now q arriving).observed.count .tokenIssued = 0 := by
  have failures : ∀ x ∈ (collected wall now q arriving).observed,
      ∃ source kind, x = .sourceFailed source kind := Collected.observed_collect (by simp)
  rw [List.filterMap_eq_nil_iff, List.count_eq_zero]
  constructor
  · intro x hx
    obtain ⟨source, kind, rfl⟩ := failures x hx
    rfl
  · intro hx
    obtain ⟨source, kind, ⟨⟩⟩ := failures _ hx

/-- Of states and tokens a search counts those of its window, if it kept something. -/
theorem observed_consume (a : SearchAggregator) (seen : SeenStore)
    (kept : ¬NothingKept wall sources now q arriving) :
    (a.consume wall sources now q seen arriving).observed.filterMap Observation.state?
        = (a.tracked wall now q seen arriving).observed.filterMap Observation.state?
      ∧ (a.consume wall sources now q seen arriving).observed.count .tokenIssued
        = (a.tracked wall now q seen arriving).observed.count .tokenIssued := by
  obtain ⟨silent, none_issued⟩ := observed_collected wall now q arriving
  have counts {α : Type} (xs : List α) {f : α → Observation} (other : ∀ x, f x ≠ .tokenIssued) :
      (xs.map f).count .tokenIssued = 0 := by
    simpa [List.count_eq_zero] using fun x _ => other x
  rw [consume_of_not_nothingKept a seen kept]
  simp [List.count_append, List.filterMap_map, Observation.state?, Function.comp_def, silent,
    none_issued, counts]

/-- A search that keeps nothing leaves no trace. -/
theorem observed_consume_of_nothingKept (a : SearchAggregator) (seen : SeenStore)
    (failed : NothingKept wall sources now q arriving) :
    (a.consume wall sources now q seen arriving).observed.filterMap Observation.state? = []
      ∧ (a.consume wall sources now q seen arriving).observed.count .tokenIssued = 0 := by
  obtain ⟨silent, none_issued⟩ := observed_collected wall now q arriving
  rw [consume_of_nothingKept a seen failed]
  simp [List.count_append, List.filterMap_map, Observation.state?, Function.comp_def, silent,
    none_issued, List.count_eq_zero]

/-- What a search over any arrivals does to its window. A search without a result has an empty
window and stores and counts nothing. A result has one entry for every item of the window: what is
issued for it, and the identifier, state and fingerprint of the item as it came, compared with the
store that the items before it left. Nothing else is stored, the states that are counted are those
of the entries, and tokens are counted for the items with a link that is no magnet link. The link of
each of these holds a token that is read back, so no link fails to be replaced. -/
theorem tracks_window (a : SearchAggregator) (wall : Nat → Moment) (now : Nat) (q : SearchQuery)
    (seen : SeenStore) :
    (∀ sources arriving,
      let o := a.consume wall sources now q seen arriving
      let w := window wall now q arriving
      let time := now + o.elapsed
      (∀ e, o.result = .error e →
        (∃ errors, e = .allSourcesFailed errors) ∧ w = [] ∧ o.seen = seen
        ∧ o.observed.filterMap Observation.state? = [] ∧ o.observed.count .tokenIssued = 0)
      ∧ ∀ r, o.result = .ok r →
        r.stats.new + r.stats.updated + r.stats.unchanged = r.items.length
        ∧ r.items.length = w.length
        ∧ (r.items = w.mapIdx fun k i =>
          let before := SeenStore.after a.ids seen ((w.take k).map (time, ·))
          let answer := before.classify a.ids time i
          ⟨(a.issuer.issue i).1, answer.1, i.fingerprint, answer.2.1⟩)
        ∧ o.seen = SeenStore.after a.ids seen (w.map (time, ·))
        ∧ o.observed.filterMap Observation.state? = r.items.map (·.state)
        ∧ o.observed.count .tokenIssued = w.countP (fun i => i.link ≠ "" ∧ i.isMagnet = false)
        ∧ ∀ i ∈ w, (i.link = "" ∨ i.isMagnet = true → (a.issuer.issue i).1 = i)
          ∧ (i.link ≠ "" → i.isMagnet = false → ∃ wire, (a.issuer.issue i).1 =
            { i with
              link := a.issuer.baseUrl ++ "/" ++ wire ++ "/"
                ++ Percent.encode (LinkIssuer.fileStem i.title) ++ ".torrent"
              sourceLink := none }
            ∧ DownloadToken.decode wire a.issuer.secret = (.ok ⟨i.site, i.canonicalLink⟩, [])))
    ∧ ∀ indexers : List Indexer, indexers ≠ [] → a.search wall indexers now q seen
      = a.consume wall indexers.length now q seen (a.arrivals indexers now q) := by
  refine ⟨?_, fun indexers => search_eq_consume a wall seen⟩
  intro sources arriving o w time
  constructor
  case left =>
    intro e failed
    obtain ⟨nothing, rfl⟩ := result_consume_eq_error_iff.1 failed
    refine ⟨⟨_, rfl⟩, ?_, ?_, observed_consume_of_nothingKept a seen nothing⟩
    · simpa using window_eq_of_items nothing.2
    · exact congrArg AggregateOutcome.seen (consume_of_nothingKept a seen nothing)
  case right =>
    intro r succeeded
    obtain ⟨kept, entries, -, stats⟩ := result_consume_eq_ok_iff.1 succeeded
    have ends : time = now + (collected wall now q arriving).elapsed :=
      congrArg (now + ·.elapsed) (consume_of_not_nothingKept a seen kept)
    have run : a.tracked wall now q seen arriving
        = w.foldl (Tracked.add a.ids a.issuer time) { seen } := by rw [tracked, ends]
    obtain ⟨states, issued⟩ := observed_consume a seen kept
    have items : r.items = _ := (entries.trans (congrArg _ run)).trans Tracked.items_eq_mapIdx
    rw [List.nil_append] at items
    refine ⟨?sum, by simp [items], items, ?store, ?states, ?tokens, ?links⟩
    case sum =>
      rw [stats]
      exact ItemState.countP_add_countP_add_countP r.items
    case store =>
      have stored : o.seen = (a.tracked wall now q seen arriving).seen :=
        congrArg AggregateOutcome.seen (consume_of_not_nothingKept a seen kept)
      rw [stored, run, Tracked.seen_foldl_add]
    case states => rw [states, entries, run, Tracked.states_foldl_add rfl]
    case tokens =>
      rw [issued, run, Tracked.count_tokenIssued_foldl_add]
      exact Nat.zero_add _
    case links =>
      intro i _
      exact ⟨a.issuer.issue_of_not_replaces, a.issuer.issue_of_web⟩

/-- An item that comes twice is not new the second time. Of four items that arrive one is outside
the window and one has a magnet link. -/
theorem tracks_window_sample :
    let a : SearchAggregator :=
      { issuer := .new "http://nab.example" ⟨[1], .random⟩, ids := default }
    let item := Sample.webItem "a" "1" "A1"
    let arriving : List Arrival :=
      [⟨2, .page "a" [item, item, Sample.magnetItem "a" "2" "A2", Sample.webItem "a" "3" "A3"]⟩]
    let o := a.consume (fun _ => Sample.published) 1 0 { function := .search, limit := some 3 }
      (.new 9 9) arriving
    ∃ r, o.result = .ok r ∧ r.stats.new + r.stats.updated + r.stats.unchanged = 3
      ∧ (r.items[1]?).map (·.state) = some .unchanged ∧ o.observed.count .tokenIssued = 2 := by
  intro a item arriving o
  obtain ⟨-, ok⟩ := (tracks_window a (fun _ => Sample.published) 0
    { function := .search, limit := some 3 } (.new 9 9)).1 1 arriving
  obtain ⟨sum, length, items, -, -, tokens, -⟩ := ok _ rfl
  have sorted : List.Pairwise (fun x y : Nat × Item => x.1 ≤ y.1)
      ([] ++ (2, item) :: [] ++ [(2, item)]) := by simp
  have young : 2 ≤ 2 + 9 := by omega
  have few : (SeenStore.keys []).card < 9 := by decide
  have second := SeenStore.classify_of_recent a.ids sorted rfl (by simp) young few
  refine ⟨_, rfl, sum.trans (length.trans rfl), ?_, tokens.trans (by decide)⟩
  rw [items]
  exact congrArg some (second.2.trans (if_pos rfl))

end SearchAggregator

end TorznabGateway
