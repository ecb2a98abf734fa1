import TorznabGateway.Indexer.Scripted
import TorznabGateway.Proofs.Cache.Memory
import TorznabGateway.Status

/-!
# When indexers are checked

Calls for the report on the indexers, each of which begins when the one before it is answered, make
rounds of checks by a schedule: a call makes one exactly if none ended within the time to live
before it. Every other call answers the report of the last round and looks at no indexer. A report
is kept whatever the room of the cache, for it is all that the cache holds.

## Main definitions

* `Registry.answers`: the answers to a run of calls.
* `StatusAnswer.lastRound?`: the last answer of a history for which indexers were checked.
* `StatusReport.Describes`: a report on the checks of all indexers at a time.
* `StatusAnswer.OnSchedule`: an answer that is right after a history of answers.

## Main statements

* `Registry.describes_checkAll`: a round of checks is described by its report.
* `StatusAnswer.Keeps.answer`: one call is answered on schedule, and the cache keeps the last round.
* `Registry.answers_on_schedule`: every call of a run is answered on schedule, by what the indexers
  say in its rounds.
-/
namespace TorznabGateway

/-! ## Reports -/

/-- Whether an entry says how the check of an indexer went that was made at `time`. -/
structure IndexerHealth.Describes (h : IndexerHealth) (i : Indexer) (time : Nat) : Prop where
  name : h.name = i.name
  isOk : h.isOk ↔ i.check time = .ok ()
  error : ∀ e, i.check time = .error e → h.error = some e.message

/-- Whether a report lists every indexer once, in their order, with the check of it that was made at
`time`, and counts them. -/
structure StatusReport.Describes (report : StatusReport) (r : Registry) (time : Nat) : Prop where
  entries : List.Forall₂ (·.Describes · time) report.indexers r.indexers
  healthy : report.healthy = (report.indexers.filter (·.isOk)).length
  total : report.total = r.indexers.length

namespace Registry

theorem describes_health (now : Nat) (i : Indexer) : (health now i).Describes i now := by
  unfold health
  cases answer : i.check now <;>
    exact ⟨rfl, by simp [IndexerHealth.isOk, answer], by simp [answer]⟩

/-- The report on a round describes its checks. -/
theorem describes_checkAll (r : Registry) (now took : Nat) :
    (r.checkAll now took).Describes r now where
  entries := List.forall₂_map_left_iff.2 (List.forall₂_same.2 fun i _ => describes_health now i)
  healthy := List.countP_eq_length_filter
  total := List.length_map _

end Registry

/-! ## Calls and answers -/

/-- A call for the report: when it begins, and the time until it is answered. -/
structure StatusCall where
  started : Nat
  took : Nat
  deriving DecidableEq, Repr

def StatusCall.finished (c : StatusCall) : Nat :=
  c.started + c.took

theorem StatusCall.started_le_finished (c : StatusCall) : c.started ≤ c.finished :=
  Nat.le_add_right _ _

/-- A call with its answer, and whether indexers were checked for it. -/
structure StatusAnswer extends StatusCall where
  report : StatusReport
  checked : Bool

namespace Registry

/-- The answer to a call, and the cache after it. -/
def answer (r : Registry) (cache : StatusCache) (call : StatusCall) :
    StatusAnswer × StatusCache :=
  let (report, checked, cache) := r.currentReport cache call.started call.took
  (⟨call, report, checked⟩, cache)

theorem answer_of_get_eq_some {r : Registry} {cache : StatusCache} {call : StatusCall}
    {report : StatusReport} (found : (cache.get call.started ()).1 = some report) :
    r.answer cache call = (⟨call, report, false⟩, (cache.get call.started ()).2) := by
  simp only [answer, currentReport, found]

theorem answer_of_get_eq_none {r : Registry} {cache : StatusCache} {call : StatusCall}
    (absent : (cache.get call.started ()).1 = none) :
    r.answer cache call = (⟨call, r.checkAll call.started call.took, true⟩,
      (cache.get call.started ()).2.add call.finished ()
        (r.checkAll call.started call.took)) := by
  simp only [answer, currentReport, absent]
  rfl

/-- The answers to a run of calls. -/
def answers (r : Registry) (cache : StatusCache) : List StatusCall → List StatusAnswer
  | [] => []
  | call :: rest => (r.answer cache call).1 :: r.answers (r.answer cache call).2 rest

theorem map_toStatusCall_answers (r : Registry) (cache : StatusCache) (calls : List StatusCall) :
    (r.answers cache calls).map (·.toStatusCall) = calls := by
  induction calls generalizing cache with
  | nil => rfl
  | cons call rest ih => exact congrArg (call :: ·) (ih _)

end Registry

namespace StatusAnswer

variable {r : Registry} {cache : StatusCache} {ttl now : Nat} {a b : StatusAnswer}
  {past : List StatusAnswer} {call : StatusCall}

/-! ## The last round -/

/-- The last answer for which indexers were checked. -/
def lastRound? (past : List StatusAnswer) : Option StatusAnswer :=
  past.reverse.find? (·.checked)

theorem lastRound?_concat (past : List StatusAnswer) (a : StatusAnswer) :
    lastRound? (past ++ [a]) = if a.checked then some a else lastRound? past := by
  cases checked : a.checked <;> simp [lastRound?, checked]

theorem lastRound?_eq_none : lastRound? past = none ↔ ∀ a ∈ past, a.checked = false := by
  simp [lastRound?]

theorem mem_of_lastRound? (last : lastRound? past = some b) : b ∈ past ∧ b.checked :=
  ⟨List.mem_reverse.1 (List.mem_of_find?_eq_some last), List.find?_some last⟩

/-- No round ended after the last one. -/
theorem finished_le_of_lastRound? (sorted : past.Pairwise (·.finished ≤ ·.started))
    (last : lastRound? past = some b) : ∀ a ∈ past, a.checked → a.finished ≤ b.finished := by
  induction past using List.reverseRecOn with
  | nil => cases last
  | append_singleton past new ih =>
    intro a ha checked
    obtain ⟨sorted, -, before⟩ := List.pairwise_append.1 sorted
    rw [lastRound?_concat] at last
    rcases List.mem_append.1 ha with earlier | same
    · by_cases round : new.checked
      · obtain rfl : new = b := by simpa [round] using last
        exact (before a earlier new (by simp)).trans new.started_le_finished
      · exact ih sorted (by simpa [round] using last) a earlier checked
    · obtain rfl := List.mem_singleton.1 same
      obtain rfl : a = b := by simpa [checked] using last
      exact Nat.le_refl _

/-- All rounds have ended long enough ago if the last one has. -/
theorem forall_rounds_iff (sorted : past.Pairwise (·.finished ≤ ·.started)) :
    (∀ b ∈ past, b.checked → b.finished + ttl < now)
      ↔ ∀ b, lastRound? past = some b → b.finished + ttl < now := by
  constructor
  · intro all b last
    obtain ⟨mem, checked⟩ := mem_of_lastRound? last
    exact all b mem checked
  · intro one a ha checked
    cases last : lastRound? past with
    | none => simp [lastRound?_eq_none.1 last a ha] at checked
    | some b =>
      have := finished_le_of_lastRound? sorted last a ha checked
      have := one b last
      omega

/-! ## One call -/

/-- Whether an answer is right after the answers in `past`: indexers are checked if no round ended
within the time to live before the call, the report of the last round is answered again if not, and
the report is one on the checks of the last round, which may be that of the call. -/
structure OnSchedule (r : Registry) (ttl : Nat) (past : List StatusAnswer) (a : StatusAnswer) :
    Prop where
  checked_iff : a.checked ↔ ∀ b ∈ past, b.checked → b.finished + ttl < a.started
  unchanged : a.checked = false → ∃ b, lastRound? past = some b ∧ a.report = b.report
  describes : ∃ b, lastRound? (past ++ [a]) = some b ∧ a.report.Describes r b.started

/-- What is known of a cache at time `now`, after the answers in `past`. -/
structure Keeps (r : Registry) (cache : StatusCache) (now : Nat) (past : List StatusAnswer) :
    Prop where
  /-- It remembers the report of the last round, and when that ended. No other key is ever used. -/
  remembers : cache.Remembers now () ((lastRound? past).map fun b => (b.finished, b.report)) ∅
  sorted : past.Pairwise (·.finished ≤ ·.started)
  ended : ∀ b ∈ past, b.finished ≤ now
  rounds : ∀ b ∈ past, b.checked → b.report = r.checkAll b.started b.took

theorem Keeps.new (r : Registry) (capacity ttl now : Nat) : Keeps r (.new capacity ttl) now [] where
  remembers := .new capacity ttl now ()
  sorted := .nil
  ended := by simp
  rounds := by simp

theorem Keeps.later (h : Keeps r cache now past) {next : Nat} (le : now ≤ next) :
    Keeps r cache next past :=
  { h with
    remembers := h.remembers.later le
    ended := fun b hb => (h.ended b hb).trans le }

/-- A report that is found is that of the last round, which ended within the time to live. -/
theorem Keeps.of_get_eq_some (h : Keeps r cache now past) {report : StatusReport}
    (found : (cache.get now ()).1 = some report) :
    ∃ b, lastRound? past = some b ∧ report = b.report ∧ now ≤ b.finished + cache.ttl := by
  obtain ⟨t, last, young⟩ := h.remembers.last_of_get found
  obtain ⟨b, hb, same⟩ := Option.map_eq_some_iff.1 last
  cases same
  exact ⟨b, hb, rfl, young⟩

/-- If none is found, the last round has ended before. -/
theorem Keeps.of_get_eq_none (h : Keeps r cache now past) (absent : (cache.get now ()).1 = none)
    (b : StatusAnswer) (last : lastRound? past = some b) : b.finished + cache.ttl < now := by
  by_contra young
  have few : (∅ : Finset Unit).card < cache.capacity := h.remembers.room
  have found := h.remembers.get_eq_some (congrArg _ last) (Nat.not_lt.1 young) few
  rw [absent] at found
  cases found

/-- One more answer. -/
theorem Keeps.concat (h : Keeps r cache a.started past) {next : StatusCache}
    (remembers : next.Remembers a.finished ()
      ((lastRound? (past ++ [a])).map fun b => (b.finished, b.report)) ∅)
    (round : a.checked → a.report = r.checkAll a.started a.took) :
    Keeps r next a.finished (past ++ [a]) where
  remembers := remembers
  sorted := by
    refine List.pairwise_append.2 ⟨h.sorted, List.pairwise_singleton _ _, ?_⟩
    simpa using h.ended
  ended := by
    intro b hb
    rcases List.mem_append.1 hb with earlier | same
    · exact (h.ended b earlier).trans a.started_le_finished
    · rw [List.mem_singleton.1 same]
  rounds := by
    intro b hb
    rcases List.mem_append.1 hb with earlier | same
    · exact h.rounds b earlier
    · exact List.mem_singleton.1 same ▸ round

/-- One call, answered from the cache: the cache stays as it is, up to when it was used. -/
theorem Keeps.answer_of_hit (h : Keeps r cache call.started past) {report : StatusReport}
    (found : (cache.get call.started ()).1 = some report) :
    Keeps r (r.answer cache call).2 call.finished (past ++ [(r.answer cache call).1])
      ∧ OnSchedule r cache.ttl past (r.answer cache call).1 := by
  have last_round : lastRound? (past ++ [⟨call, report, false⟩]) = lastRound? past :=
    lastRound?_concat past _
  rw [Registry.answer_of_get_eq_some found]
  obtain ⟨b, last, rfl, young⟩ := h.of_get_eq_some found
  constructor
  · refine h.concat (a := ⟨call, b.report, false⟩) ?_ (by simp)
    have looked := (h.remembers.get ()).later call.started_le_finished
    rw [last_round]
    simpa using looked
  · refine ⟨?checked_iff, fun _ => ⟨b, last, rfl⟩, b, last_round.trans last, ?describes⟩
    case checked_iff =>
      rw [forall_rounds_iff h.sorted]
      simpa using ⟨b, last, young⟩
    case describes =>
      obtain ⟨mem, checked⟩ := mem_of_lastRound? last
      rw [h.rounds b mem checked]
      exact r.describes_checkAll b.started b.took

/-- One call that checks the indexers. -/
theorem Keeps.answer_of_miss (h : Keeps r cache call.started past)
    (absent : (cache.get call.started ()).1 = none) :
    Keeps r (r.answer cache call).2 call.finished (past ++ [(r.answer cache call).1])
      ∧ OnSchedule r cache.ttl past (r.answer cache call).1 := by
  have last_round : lastRound? (past ++ [⟨call, r.checkAll call.started call.took, true⟩])
      = some ⟨call, r.checkAll call.started call.took, true⟩ :=
    lastRound?_concat past _
  rw [Registry.answer_of_get_eq_none absent]
  constructor
  · refine h.concat (a := ⟨call, r.checkAll call.started call.took, true⟩) ?_ fun _ => rfl
    have looked := (h.remembers.get ()).later call.started_le_finished
    have stored := looked.add () (r.checkAll call.started call.took)
    rw [last_round]
    simpa using stored
  · refine ⟨?checked_iff, by simp, _, last_round, r.describes_checkAll call.started call.took⟩
    case checked_iff =>
      rw [forall_rounds_iff h.sorted]
      simpa using h.of_get_eq_none absent

/-- One call is answered on schedule, and the cache keeps the last round. -/
theorem Keeps.answer (h : Keeps r cache call.started past) :
    Keeps r (r.answer cache call).2 call.finished (past ++ [(r.answer cache call).1])
      ∧ OnSchedule r cache.ttl past (r.answer cache call).1 := by
  cases found : (cache.get call.started ()).1 with
  | some report => exact h.answer_of_hit found
  | none => exact h.answer_of_miss found

end StatusAnswer

/-! ## Runs -/

namespace Registry

open StatusAnswer

variable {r : Registry} {cache : StatusCache} {now : Nat}

theorem ttl_answer (r : Registry) (cache : StatusCache) (call : StatusCall) :
    (r.answer cache call).2.ttl = cache.ttl := by
  cases found : (cache.get call.started ()).1 with
  | some report => rw [answer_of_get_eq_some found, TtlCache.ttl_get]
  | none => rw [answer_of_get_eq_none found, TtlCache.ttl_add, TtlCache.ttl_get]

/-- From a cache that keeps the last round, every call of a run is answered on schedule. -/
theorem onSchedule_of_keeps {past : List StatusAnswer} (h : Keeps r cache now past)
    {calls : List StatusCall} (sorted : calls.Pairwise (·.finished ≤ ·.started))
    (after : ∀ call ∈ calls, now ≤ call.started) {earlier later : List StatusAnswer}
    {a : StatusAnswer} (split : r.answers cache calls = earlier ++ a :: later) :
    OnSchedule r cache.ttl (past ++ earlier) a := by
  induction calls generalizing cache now past earlier with
  | nil => simp [answers] at split
  | cons call rest ih =>
    obtain ⟨first, sorted⟩ := List.pairwise_cons.1 sorted
    obtain ⟨kept, on_schedule⟩ := (h.later (after call List.mem_cons_self)).answer
    cases earlier with
    | nil =>
      obtain ⟨rfl, -⟩ := List.cons.inj split
      rwa [List.append_nil]
    | cons b earlier =>
      obtain ⟨rfl, rest_split⟩ := List.cons.inj split
      have rest_on_schedule := ih kept sorted first rest_split
      rwa [ttl_answer, List.append_assoc] at rest_on_schedule

/-- Indexers are looked at in rounds only: others that do as well in every round give the same
answers. -/
theorem answers_congr {other : Registry} {calls : List StatusCall}
    (same : ∀ a ∈ r.answers cache calls, a.checked →
      other.indexers.map (health a.started) = r.indexers.map (health a.started)) :
    other.answers cache calls = r.answers cache calls := by
  induction calls generalizing cache with
  | nil => rfl
  | cons call rest ih =>
    have first : other.answer cache call = r.answer cache call := by
      cases found : (cache.get call.started ()).1 with
      | some report => rw [answer_of_get_eq_some found, answer_of_get_eq_some found]
      | none =>
        have checked : (r.answer cache call).1.checked := by rw [answer_of_get_eq_none found]
        have equal : other.indexers.map (health call.started)
            = r.indexers.map (health call.started) := same _ List.mem_cons_self checked
        rw [answer_of_get_eq_none found, answer_of_get_eq_none found, checkAll, checkAll, equal]
    rw [answers, answers, first, ih fun a ha => same a (List.mem_cons_of_mem _ ha)]

/-- With a cache of its own, of any room and any time to live, every call of a run is answered, and
on schedule; what is answered depends on the indexers in no other way than by their checks in the
rounds. -/
theorem answers_on_schedule (r : Registry) (capacity ttl : Nat) {calls : List StatusCall}
    (sorted : calls.Pairwise (·.finished ≤ ·.started)) :
    let answers := r.answers (.new capacity ttl) calls
    answers.map (·.toStatusCall) = calls
      ∧ (∀ earlier a later, answers = earlier ++ a :: later → OnSchedule r ttl earlier a)
      ∧ ∀ other : Registry,
        (∀ a ∈ answers, a.checked →
          other.indexers.map (health a.started) = r.indexers.map (health a.started)) →
        other.answers (.new capacity ttl) calls = answers := by
  refine ⟨map_toStatusCall_answers r _ calls, ?_, fun other same => answers_congr same⟩
  intro earlier a later split
  exact onSchedule_of_keeps (Keeps.new r capacity ttl 0) sorted (fun call _ => Nat.zero_le _) split

/-- A report that ended at 5 is answered up to 185, though a cache without room was asked for. One
of the indexers fails by the next round, and the last call answers the report of that round. -/
theorem answers_on_schedule_failing :
    let a : Script := { name := "a" }
    let b : Script := { name := "b" }
    let r : Registry :=
      { indexers := [a.toIndexer, { b.toIndexer with
          check := fun now => if now < 100 then .ok () else .error .timeout }] }
    let calls : List StatusCall := [⟨0, 5⟩, ⟨185, 0⟩, ⟨186, 4⟩, ⟨200, 0⟩]
    let answers := r.answers (.new 0 180) calls
    calls.Pairwise (·.finished ≤ ·.started)
      ∧ answers.map (fun a => (a.checked, a.report.healthy, a.report.checkedAt))
        = [(true, 2, 5), (false, 2, 5), (true, 1, 190), (false, 1, 190)]
      ∧ ∀ last ∈ answers.getLast?, last.report.Describes r 186 := by
  intro a b r calls answers
  have sorted : calls.Pairwise (·.finished ≤ ·.started) := by decide
  refine ⟨sorted, by decide +kernel, ?_⟩
  intro last ends
  obtain ⟨earlier, split⟩ := List.getLast?_eq_some_iff.1 ends
  have on_schedule := (answers_on_schedule r 0 180 sorted).2.1 earlier last [] split
  obtain ⟨round, last_round, described⟩ := on_schedule.describes
  have began : (lastRound? answers).map (·.started) = some 186 := by decide +kernel
  rw [split, last_round] at began
  have start : round.started = 186 := Option.some.inj began
  rwa [start] at described

end Registry

end TorznabGateway
