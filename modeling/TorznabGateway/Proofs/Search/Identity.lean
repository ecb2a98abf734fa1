import TorznabGateway.Proofs.Config.Acceptance
import TorznabGateway.Proofs.Search.Sightings

/-!
# Identifiers tell items apart

An identifier that is answered for an item is never answered for an item with another key, however
the store forgets items in between, and whatever the clock shows. A key consists of the site and
the local part of an item, and as no name of an indexer holds a slash, it says which these are. So
results of different indexers never share an identifier.

## Main definitions

* `SeenStore.answers`: the items of a history with the identifiers that were answered.
* `SeenStore.Attributed`: a store that holds nothing but identifiers that were answered, each for
  items of one key.

## Main statements

* `SeenStore.Attributed.classify`: a sighting keeps this true.
* `Item.key_eq_iff`: what equal keys say of two items.
* `SeenStore.identifiers_separate`: items with one identifier have one key, and are of one indexer.
-/
namespace TorznabGateway

open Text

/-! ## Keys -/

theorem Item.key_eq_iff {i j : Item} (hi : '/' ∉ i.site.toList) (hj : '/' ∉ j.site.toList) :
    i.key = j.key ↔ i.site = j.site ∧ i.localPart = j.localPart := by
  constructor
  · intro same
    have chars : i.site.toList ++ '/' :: i.localPart.toList
        = j.site.toList ++ '/' :: j.localPart.toList := by
      simpa [Item.key] using congrArg String.toList same
    have count : i.site.toList.count '/' = j.site.toList.count '/' := by
      rw [List.count_eq_zero_of_not_mem hi, List.count_eq_zero_of_not_mem hj]
    obtain ⟨site, localPart⟩ := append_separator_inj count chars
    exact ⟨String.toList_inj.1 site, String.toList_inj.1 localPart⟩
  · rintro ⟨site, localPart⟩
    rw [Item.key, Item.key, site, localPart]

namespace SeenStore

variable {ids : Nat → Uuid} {s : SeenStore} {now : Nat}

/-! ## One sighting -/

/-- The items of a history, each with the identifier that was answered for it. -/
def answers (ids : Nat → Uuid) (s : SeenStore) : List (Nat × Item) → List (Item × Uuid)
  | [] => []
  | (now, i) :: rest =>
    (i, (s.classify ids now i).1) :: answers ids (s.classify ids now i).2.2 rest

/-- Whether a store goes back to given answers: what it holds was answered for an item of that key,
all answers were issued, and no two of them are the same for items of different keys. -/
structure Attributed (ids : Nat → Uuid) (s : SeenStore) (given : List (Item × Uuid)) : Prop where
  held : ∀ key seen, s.sightings.Holds key seen → ∃ a ∈ given, a.1.key = key ∧ a.2 = seen.uuid
  issued : ∀ a ∈ given, s.Issued ids a.2
  same_key : ∀ a ∈ given, ∀ b ∈ given, a.2 = b.2 → a.1.key = b.1.key

theorem attributed_new (ids : Nat → Uuid) (capacity ttl : Nat) :
    (new capacity ttl).Attributed ids [] where
  held _ _ h := absurd h (TtlCache.not_holds_new capacity ttl)
  issued := by simp
  same_key := by simp

/-- An answer is the first of its identifier, or was given before for an item of the same key. -/
theorem Attributed.answer_cases {given : List (Item × Uuid)} (h : s.Attributed ids given)
    (now : Nat) (i : Item) :
    (s.classify ids now i).1 = ids (s.issued + 1)
        ∧ (s.classify ids now i).2.2.issued = s.issued + 1
      ∨ ∃ a ∈ given, a.1.key = i.key ∧ a.2 = (s.classify ids now i).1 := by
  cases found : (s.sightings.get now i.key).1 with
  | none =>
    rw [classify_of_get_eq_none found]
    exact .inl ⟨rfl, rfl⟩
  | some seen =>
    rw [classify_of_get_eq_some found]
    exact .inr (h.held i.key seen (TtlCache.holds_of_get found))

/-- A sighting keeps a store attributed, as long as the supply of identifiers does not repeat
itself. -/
theorem Attributed.classify {given : List (Item × Uuid)} (h : s.Attributed ids given) (now : Nat)
    (i : Item) (distinct : ∀ m, 0 < m → m ≤ s.issued → ids m ≠ ids (s.issued + 1)) :
    (s.classify ids now i).2.2.Attributed ids ((i, (s.classify ids now i).1) :: given) := by
  have more := (issued_le_classify ids s now i).1
  have key_of_given : ∀ a ∈ given, a.2 = (s.classify ids now i).1 → a.1.key = i.key := by
    intro a ha same
    rcases h.answer_cases now i with ⟨fresh, -⟩ | ⟨b, hb, key, answered⟩
    · obtain ⟨m, pos, le, issued⟩ := h.issued a ha
      exact absurd (issued.symm.trans (same.trans fresh)) (distinct m pos le)
    · exact (h.same_key a ha b hb (same.trans answered.symm)).trans key
  refine ⟨?held, ?issued, ?same_key⟩
  case held =>
    intro key seen holds
    rw [sightings_classify] at holds
    rcases holds.of_add with ⟨rfl, rfl⟩ | ⟨-, before⟩
    · exact ⟨_, List.mem_cons_self, rfl, rfl⟩
    · obtain ⟨a, ha, answered⟩ := h.held key seen before.of_get
      exact ⟨a, List.mem_cons_of_mem _ ha, answered⟩
  case issued =>
    intro a ha
    rcases List.mem_cons.1 ha with rfl | ha
    · rcases h.answer_cases now i with ⟨fresh, count⟩ | ⟨b, hb, -, answered⟩
      · exact ⟨s.issued + 1, by omega, by omega, fresh⟩
      · exact answered ▸ (h.issued b hb).mono more
    · exact (h.issued a ha).mono more
  case same_key =>
    intro a ha b hb same
    rcases List.mem_cons.1 ha with rfl | ha <;> rcases List.mem_cons.1 hb with rfl | hb
    · rfl
    · exact (key_of_given b hb same.symm).symm
    · exact key_of_given a ha same
    · exact h.same_key a ha b hb same

/-! ## Histories -/

/-- Of all answers of a history and those before it, no two are the same for different keys. -/
theorem Attributed.same_key_answers {given : List (Item × Uuid)} (h : s.Attributed ids given)
    (history : List (Nat × Item))
    (distinct : ∀ m n, 0 < m → m < n → n ≤ s.issued + history.length → ids m ≠ ids n) :
    ∀ a ∈ given ++ answers ids s history, ∀ b ∈ given ++ answers ids s history,
      a.2 = b.2 → a.1.key = b.1.key := by
  -- the answers of the history move one by one to those given before it
  induction history generalizing s given with
  | nil => simpa [answers] using h.same_key
  | cons x rest ih =>
    obtain ⟨now, i⟩ := x
    have step := h.classify now i fun m pos le => distinct m _ pos (by omega) (by simp)
    have less := (issued_le_classify ids s now i).2
    have all := ih step fun m n pos lt le =>
      distinct m n pos lt (by simp only [List.length_cons]; omega)
    intro a ha b hb
    apply all
    · simpa [answers, or_left_comm] using ha
    · simpa [answers, or_left_comm] using hb

/-- Items that were answered under one identifier have one key, whatever the times of the sightings
and the bounds of the store are. The key of an item says which its site and its local part are, if
sites hold no slash. So items with one identifier are of one indexer, if their sites are names in an
accepted configuration. -/
theorem identifiers_separate (ids : Nat → Uuid) (capacity ttl : Nat) (history : List (Nat × Item))
    (distinct : ∀ m n, 0 < m → m < n → n ≤ history.length → ids m ≠ ids n) :
    (∀ a ∈ answers ids (new capacity ttl) history, ∀ b ∈ answers ids (new capacity ttl) history,
      a.2 = b.2 → a.1.key = b.1.key)
    ∧ (∀ i j : Item, '/' ∉ i.site.toList → '/' ∉ j.site.toList →
        (i.key = j.key ↔ i.site = j.site ∧ i.localPart = j.localPart))
    ∧ ∀ c : Config, c.validate = .ok () →
        ∀ x ∈ c.jackettIndexers, ∀ y ∈ c.jackettIndexers,
        ∀ a ∈ answers ids (new capacity ttl) history, ∀ b ∈ answers ids (new capacity ttl) history,
          a.1.site = x.name → b.1.site = y.name → a.2 = b.2 →
          x = y ∧ a.1.localPart = b.1.localPart := by
  have none_issued : (new capacity ttl).issued = 0 := rfl
  have one_key := (attributed_new ids capacity ttl).same_key_answers history
    fun m n pos lt le => distinct m n pos lt (by omega)
  refine ⟨one_key, fun i j => Item.key_eq_iff, ?_⟩
  intro c valid x hx y hy a ha b hb site_a site_b same
  have fit := Config.namesFit_of_validate valid
  have slash_a : '/' ∉ a.1.site.toList := site_a ▸ (fit.isName x hx).no_slash
  have slash_b : '/' ∉ b.1.site.toList := site_b ▸ (fit.isName y hy).no_slash
  obtain ⟨site, localPart⟩ := (Item.key_eq_iff slash_a slash_b).1 (one_key a ha b hb same)
  have name : x.name = y.name := site_a.symm.trans (site.trans site_b)
  exact ⟨List.inj_on_of_nodup_map fit.nodup hx hy (congrArg lowercase name), localPart⟩

/-- A store for one item, which forgets the first item before it is seen again. -/
theorem identifiers_separate_evicted :
    let ids := fun n => (⟨[.ofNat n]⟩ : Uuid)
    let item := Sample.webItem "a" "1/b" "First"
    let other := Sample.webItem "a" "1" "Other"
    let history := [(9, item), (3, other), (7, item), (7, { item with title := "Second" })]
    (∀ m n, 0 < m → m < n → n ≤ history.length → ids m ≠ ids n)
      ∧ (answers ids (new 1 10) history).map (·.2) = [ids 1, ids 2, ids 3, ids 3]
      ∧ ∀ a ∈ answers ids (new 1 10) history, ∀ b ∈ answers ids (new 1 10) history,
          a.2 = b.2 → a.1.key = b.1.key := by
  intro ids item other history
  have distinct : ∀ m n, 0 < m → m < n → n ≤ history.length → ids m ≠ ids n := by
    have below : ∀ n ≤ 4, ∀ m < n, ids m ≠ ids n := by decide
    intro m n _ less few
    exact below n few m less
  exact ⟨distinct, by decide +kernel, (identifiers_separate ids 1 10 history distinct).1⟩

end SeenStore

end TorznabGateway
