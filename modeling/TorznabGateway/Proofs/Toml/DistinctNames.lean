import TorznabGateway.Proofs.Json.Members
import TorznabGateway.Proofs.Outcome
import TorznabGateway.Toml.Document

/-!
# Names in a TOML document

The format has no table that repeats a key, however its lines and dotted keys are arranged. So the
value of a document is an object, and neither this nor any object within it repeats a name.

## Main definitions

* `Toml.Entries.Distinct`: whether the value of a table repeats no name.

## Main statements

* `Toml.Entries.distinct_update`: a table is changed at the end of a path without repetitions.
* `Toml.exists_members_of_parse?`: the value of a document repeats no name.
-/
namespace TorznabGateway.Toml

open Json Text

/-! ## Tables -/

theorem membersOf_eq_map (entries : Entries) :
    membersOf entries = entries.map fun e => (e.1, e.2.toJson) := by
  induction entries with
  | nil => rfl
  | cons e es ih => rw [membersOf, ih, List.map_cons]

theorem elementsOf_eq_map (elements : List Entries) :
    elementsOf elements = elements.map fun t => .object (membersOf t) := by
  induction elements with
  | nil => rfl
  | cons t ts ih => rw [elementsOf, ih, List.map_cons]

theorem membersOf_put (key : String) (node : Node) (t : Entries) :
    membersOf (Named.put key node t) = Named.put key node.toJson (membersOf t) := by
  rw [membersOf_eq_map, Named.map_put, ← membersOf_eq_map]

namespace Entries

/-- Whether the value of a table repeats no name, and no value within it does. -/
def Distinct (t : Entries) : Prop :=
  Json.Distinct (.object (membersOf t))

variable {t t' : Entries} {key : String}

theorem distinct_nil : Distinct [] :=
  distinct_object_iff.2 ⟨List.nodup_nil, by simp [membersOf]⟩

theorem Distinct.put (h : t.Distinct) (key : String) {node : Node}
    (value : node.toJson.Distinct) : Distinct (Named.put key node t) := by
  rw [Distinct, membersOf_put]
  exact distinct_put h key value

theorem Distinct.node (h : t.Distinct) {node : Node} (found : Named.get? key t = some node) :
    node.toJson.Distinct := by
  have member : (key, node.toJson) ∈ membersOf t := by
    rw [membersOf_eq_map]
    exact List.mem_map.2 ⟨_, Named.mem_of_get? found, rfl⟩
  exact (distinct_object_iff.1 h).2 _ member

theorem distinct_table {origin : Origin} :
    (Node.table origin t).toJson.Distinct ↔ t.Distinct := Iff.rfl

theorem distinct_tables {elements : List Entries} :
    (Node.tables elements).toJson.Distinct ↔ ∀ t ∈ elements, t.Distinct := by
  rw [Node.toJson, distinct_array_iff, elementsOf_eq_map, List.forall_mem_map]
  rfl

/-- A table without repetitions goes to the end of an array of tables. -/
theorem distinct_tables_concat {elements : List Entries} (h : ∀ t ∈ elements, t.Distinct)
    (new : t.Distinct) : (Node.tables (elements ++ [t])).toJson.Distinct := by
  rw [distinct_tables, List.forall_mem_append, List.forall_mem_singleton]
  exact ⟨h, new⟩

/-- A table is changed at the end of a path without repetitions, if the change makes none. -/
theorem distinct_update {isDotted : Bool} {change : Origin → Entries → Option Entries}
    (kept : ∀ {origin t t'}, change origin t = some t' → t.Distinct → t'.Distinct)
    {origin : Origin} {path : List String} (h : update isDotted change origin path t = some t')
    (distinct : t.Distinct) : t'.Distinct := by
  induction path generalizing origin t t' with
  | nil => exact kept h distinct
  | cons key path ih =>
    unfold update at h
    split at h
    case h_1 =>
      obtain ⟨sub, changed, rfl⟩ := Option.map_eq_some_iff.1 h
      exact distinct.put key (distinct_table.2 (ih changed distinct_nil))
    case h_2 => cases h
    case h_3 elements found =>
      split at h
      case h_1 => cases h
      case h_2 last ends =>
        obtain ⟨sub, changed, rfl⟩ := Option.map_eq_some_iff.1 h
        have each := distinct_tables.1 (distinct.node found)
        have changed := ih changed (each last (List.mem_of_getLast? ends))
        exact distinct.put key (distinct_tables_concat
          (fun t ht => each t (List.dropLast_subset _ ht)) changed)
    case h_4 origin sub found =>
      obtain ⟨-, h⟩ := Option.ite_none_left_eq_some.1 h
      obtain ⟨sub, changed, rfl⟩ := Option.map_eq_some_iff.1 h
      have before := distinct_table.1 (distinct.node found)
      exact distinct.put key (distinct_table.2 (ih changed before))

theorem distinct_addPair {p : Pair} (value : p.value.Distinct) (h : addPair t p = some t')
    (distinct : t.Distinct) : t'.Distinct := by
  refine distinct_update (fun added distinct => ?_) h distinct
  obtain ⟨-, same⟩ := Option.ite_none_left_eq_some.1 added
  exact Option.some.inj same ▸ distinct.put _ value

theorem distinct_addPairs {pairs : List Pair} (values : ∀ p ∈ pairs, p.value.Distinct)
    (h : addPairs t pairs = some t') (distinct : t.Distinct) : t'.Distinct :=
  foldlM_some_induction h distinct fun p hp => distinct_addPair (values p hp)

theorem distinct_defineTable {pairs : List Pair} (values : ∀ p ∈ pairs, p.value.Distinct)
    (h : defineTable key pairs t = some t') (distinct : t.Distinct) : t'.Distinct := by
  unfold defineTable at h
  split at h
  case h_1 =>
    obtain ⟨sub, added, rfl⟩ := Option.map_eq_some_iff.1 h
    exact distinct.put key (distinct_table.2 (distinct_addPairs values added distinct_nil))
  case h_2 found =>
    obtain ⟨sub, added, rfl⟩ := Option.map_eq_some_iff.1 h
    exact distinct.put key
      (distinct_table.2 (distinct_addPairs values added (distinct_table.1 (distinct.node found))))
  case h_3 => cases h

theorem distinct_appendElement {pairs : List Pair} (values : ∀ p ∈ pairs, p.value.Distinct)
    (h : appendElement key pairs t = some t') (distinct : t.Distinct) : t'.Distinct := by
  unfold appendElement at h
  split at h
  case h_1 =>
    obtain ⟨sub, added, rfl⟩ := Option.map_eq_some_iff.1 h
    exact distinct.put key
      (distinct_tables_concat (List.forall_mem_nil _) (distinct_addPairs values added distinct_nil))
  case h_2 found =>
    obtain ⟨sub, added, rfl⟩ := Option.map_eq_some_iff.1 h
    exact distinct.put key (distinct_tables_concat (distinct_tables.1 (distinct.node found))
      (distinct_addPairs values added distinct_nil))
  case h_3 => cases h

theorem distinct_addSection {s : Section} (values : ∀ p ∈ s.pairs, p.value.Distinct)
    (h : addSection t s = some t') (distinct : t.Distinct) : t'.Distinct := by
  unfold addSection at h
  split at h
  · exact distinct_update (distinct_defineTable values) h distinct
  · exact distinct_update (distinct_appendElement values) h distinct

end Entries

/-! ## Values -/

/-- Whether the values that a scanner reads repeat no name. -/
def ReadsDistinct (value : Scan Json) : Prop :=
  ∀ {cs v rest}, value cs = some (v, rest) → v.Distinct

theorem readsDistinct_readMoment : ReadsDistinct readMoment := by
  intro cs v rest h
  unfold readMoment at h
  split at h
  all_goals
    obtain ⟨rest, -, h⟩ := Option.bind_eq_some_iff.1 h
    obtain ⟨rfl, -⟩ := Prod.mk.inj (Option.some.inj h)
    exact ⟨List.nodup_singleton _, trivial, trivial⟩

theorem readsDistinct_readFinite : ReadsDistinct readFinite := by
  intro cs v rest h
  obtain ⟨⟨whole, afterWhole⟩, -, h⟩ := Option.bind_eq_some_iff.1 h
  obtain ⟨-, h⟩ := Option.ite_none_left_eq_some.1 h
  obtain ⟨-, h⟩ := Option.ite_none_left_eq_some.1 h
  obtain ⟨rfl, -⟩ := Prod.mk.inj (Option.some.inj h)
  trivial

theorem readsDistinct_readSpecial : ReadsDistinct readSpecial := by
  intro cs v rest h
  unfold readSpecial at h
  split at h
  case h_3 => cases h
  all_goals
    obtain ⟨rfl, -⟩ := Prod.mk.inj (Option.some.inj h)
    trivial

theorem readsDistinct_readBased (base : Nat) (p : Char → Bool) :
    ReadsDistinct (readBased base p) := by
  intro cs v rest h
  obtain ⟨⟨ds, _⟩, -, h⟩ := Option.bind_eq_some_iff.1 h
  obtain ⟨-, h⟩ := Option.ite_none_right_eq_some.1 h
  obtain ⟨rfl, -⟩ := Prod.mk.inj (Option.some.inj h)
  trivial

theorem readsDistinct_readInteger : ReadsDistinct readInteger := by
  intro cs v rest h
  unfold readInteger at h
  split at h
  case h_4 =>
    obtain ⟨⟨ds, _⟩, -, h⟩ := Option.bind_eq_some_iff.1 h
    obtain ⟨-, h⟩ := Option.ite_none_right_eq_some.1 h
    obtain ⟨rfl, -⟩ := Prod.mk.inj (Option.some.inj h)
    trivial
  all_goals exact readsDistinct_readBased _ _ h

theorem readsDistinct_readNumber : ReadsDistinct readNumber := by
  intro cs v rest h
  unfold readNumber at h
  split at h
  case h_1 read => exact readsDistinct_readMoment (read.trans h)
  case h_2 =>
    split at h
    case h_1 read => exact readsDistinct_readFinite (read.trans h)
    case h_2 =>
      split at h
      case h_1 read => exact readsDistinct_readSpecial (read.trans h)
      case h_2 => exact readsDistinct_readInteger h

theorem readsDistinct_readAtom : ReadsDistinct readValue.readAtom := by
  intro cs v rest h
  unfold readValue.readAtom at h
  split at h
  case h_1 =>
    obtain ⟨rfl, -⟩ := Prod.mk.inj (Option.some.inj h)
    trivial
  case h_2 => exact readsDistinct_readNumber h

variable {value : Scan Json}

theorem distinct_readItems (reads : ReadsDistinct value) {fuel : Nat} {cs rest : List Char}
    {vs : List Json} (h : readItems value fuel cs = some (vs, rest)) : ∀ v ∈ vs, v.Distinct := by
  induction fuel generalizing cs rest vs with
  | zero => cases h
  | succ fuel ih =>
    unfold readItems at h
    split at h
    case h_1 => cases h
    case h_2 =>
      obtain ⟨rfl, -⟩ := Prod.mk.inj (Option.some.inj h)
      exact List.forall_mem_nil _
    case h_3 =>
      split at h
      case h_1 => cases h
      case h_2 v _ read =>
        split at h
        case h_1 =>
          obtain ⟨⟨others, _⟩, more, same⟩ := Option.map_eq_some_iff.1 h
          obtain ⟨rfl, -⟩ := Prod.mk.inj same
          exact List.forall_mem_cons.2 ⟨reads read, ih more⟩
        case h_2 =>
          obtain ⟨rfl, -⟩ := Prod.mk.inj (Option.some.inj h)
          exact List.forall_mem_singleton.2 (reads read)
        case h_3 => cases h

theorem distinct_readPair (reads : ReadsDistinct value) {cs rest : List Char} {p : Pair}
    (h : readPair value cs = some (p, rest)) : p.value.Distinct := by
  obtain ⟨⟨path, _⟩, -, h⟩ := Option.bind_eq_some_iff.1 h
  obtain ⟨⟨_, _⟩, -, h⟩ := Option.bind_eq_some_iff.1 h
  obtain ⟨⟨v, _⟩, read, h⟩ := Option.bind_eq_some_iff.1 h
  obtain ⟨rfl, -⟩ := Prod.mk.inj (Option.some.inj h)
  exact reads read

theorem distinct_readPairs (reads : ReadsDistinct value) {fuel : Nat} {cs rest : List Char}
    {ps : List Pair} (h : readPairs value fuel cs = some (ps, rest)) :
    ∀ p ∈ ps, p.value.Distinct := by
  induction fuel generalizing cs rest ps with
  | zero => cases h
  | succ fuel ih =>
    unfold readPairs at h
    split at h
    case h_1 => cases h
    case h_2 p _ read =>
      split at h
      case h_1 =>
        obtain ⟨⟨others, _⟩, more, same⟩ := Option.map_eq_some_iff.1 h
        obtain ⟨rfl, -⟩ := Prod.mk.inj same
        exact List.forall_mem_cons.2 ⟨distinct_readPair reads read, ih more⟩
      case h_2 =>
        obtain ⟨rfl, -⟩ := Prod.mk.inj (Option.some.inj h)
        exact List.forall_mem_singleton.2 (distinct_readPair reads read)
      case h_3 => cases h

theorem readsDistinct_readInlineTable (reads : ReadsDistinct value) :
    ReadsDistinct (readInlineTable value) := by
  intro cs v rest h
  unfold readInlineTable at h
  split at h
  case h_1 =>
    obtain ⟨rfl, -⟩ := Prod.mk.inj (Option.some.inj h)
    exact Entries.distinct_nil
  case h_2 =>
    obtain ⟨⟨pairs, _⟩, read, h⟩ := Option.bind_eq_some_iff.1 h
    obtain ⟨entries, added, h⟩ := Option.bind_eq_some_iff.1 h
    obtain ⟨rfl, -⟩ := Prod.mk.inj (Option.some.inj h)
    exact Entries.distinct_addPairs (distinct_readPairs reads read) added Entries.distinct_nil

theorem readsDistinct_readValue (depth : Nat) : ReadsDistinct (readValue depth) := by
  induction depth with
  | zero =>
    intro cs v rest h
    unfold readValue at h
    split at h
    case h_1 | h_2 =>
      obtain ⟨rfl, -⟩ := Prod.mk.inj (Option.some.inj h)
      trivial
    case h_3 => exact readsDistinct_readAtom h
    case h_4 impossible _ _ => cases impossible
  | succ depth ih =>
    intro cs v rest h
    unfold readValue at h
    split at h
    case h_1 | h_2 =>
      obtain ⟨rfl, -⟩ := Prod.mk.inj (Option.some.inj h)
      trivial
    case h_3 impossible _ _ => cases impossible
    case h_4 same _ _ =>
      obtain rfl := Nat.succ.inj same
      split at h
      case h_1 =>
        obtain ⟨⟨vs, _⟩, read, same⟩ := Option.map_eq_some_iff.1 h
        obtain ⟨rfl, -⟩ := Prod.mk.inj same
        exact distinct_array_iff.2 (distinct_readItems ih read)
      case h_2 => exact readsDistinct_readInlineTable ih h
      case h_3 => exact readsDistinct_readAtom h

/-! ## Documents -/

/-- Whether the value of a pair repeats no name. -/
def Line.Distinct : Line → Prop
  | .header _ => True
  | .pair p => p.value.Distinct

theorem distinct_readLine {cs rest : List Char} {line : Line}
    (h : readLine cs = some (line, rest)) : line.Distinct := by
  unfold readLine at h
  split at h
  case h_1 =>
    obtain ⟨_, -, same⟩ := Option.map_eq_some_iff.1 h
    obtain ⟨rfl, -⟩ := Prod.mk.inj same
    trivial
  case h_2 =>
    obtain ⟨⟨p, _⟩, read, same⟩ := Option.map_eq_some_iff.1 h
    obtain ⟨rfl, -⟩ := Prod.mk.inj same
    exact distinct_readPair (readsDistinct_readValue maxDepth) read

theorem distinct_readLines? {fuel : Nat} {cs : List Char} {lines : List Line}
    (h : readLines? fuel cs = some lines) : ∀ line ∈ lines, line.Distinct := by
  induction fuel generalizing cs lines with
  | zero => cases h
  | succ fuel ih =>
    unfold readLines? at h
    split at h
    case h_1 =>
      obtain rfl := Option.some.inj h
      exact List.forall_mem_nil _
    case h_2 => exact ih h
    case h_3 =>
      split at h
      case h_1 => cases h
      case h_2 line _ read =>
        split at h
        case h_1 => cases h
        case h_2 =>
          obtain ⟨others, more, rfl⟩ := Option.map_eq_some_iff.1 h
          exact List.forall_mem_cons.2 ⟨distinct_readLine read, ih more⟩

/-- The pairs of the lines are those of the sections. -/
theorem distinct_sections {lines : List Line} (h : ∀ line ∈ lines, line.Distinct) :
    (∀ p ∈ (sections lines).1, p.value.Distinct)
      ∧ ∀ s ∈ (sections lines).2, ∀ p ∈ s.pairs, p.value.Distinct := by
  induction lines with
  | nil => exact ⟨List.forall_mem_nil _, List.forall_mem_nil _⟩
  | cons line lines ih =>
    obtain ⟨first, h⟩ := List.forall_mem_cons.1 h
    obtain ⟨pairs, others⟩ := ih h
    cases line with
    | pair p => exact ⟨List.forall_mem_cons.2 ⟨first, pairs⟩, others⟩
    | header header => exact ⟨List.forall_mem_nil _, List.forall_mem_cons.2 ⟨pairs, others⟩⟩

theorem distinct_tableOf? {lines : List Line} (h : ∀ line ∈ lines, line.Distinct) {t : Entries}
    (made : tableOf? lines = some t) : t.Distinct := by
  obtain ⟨pairs, others⟩ := distinct_sections h
  obtain ⟨root, added, made⟩ := Option.bind_eq_some_iff.1 made
  exact foldlM_some_induction made (Entries.distinct_addPairs pairs added Entries.distinct_nil)
    fun s hs => Entries.distinct_addSection (others s hs)

/-- The value of a document is an object. Neither it nor any object within it repeats a name. -/
theorem exists_members_of_parse? {document : String} {v : Json} (h : parse? document = some v) :
    ∃ members, v = .object members ∧ v.Distinct := by
  obtain ⟨lines, read, h⟩ := Option.bind_eq_some_iff.1 h
  obtain ⟨t, made, h⟩ := Option.bind_eq_some_iff.1 h
  obtain rfl := Option.some.inj h
  exact ⟨membersOf t, rfl, distinct_tableOf? (distinct_readLines? read) made⟩

end TorznabGateway.Toml
