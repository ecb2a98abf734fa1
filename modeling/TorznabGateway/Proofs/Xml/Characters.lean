import TorznabGateway.Proofs.Xml.Reading

/-!
# Characters of documents

XML has no spelling for most control characters, nor for two code points at the end of the basic
plane. Escaping leaves them as they are, so the characters of a document that XML does not allow are
those of its texts and attribute values, in the same order.

## Main definitions

* `IsChar`: the characters that XML 1.0 allows in a document.
* `foreign`, `foreignIn`: the characters of lists and of texts that XML does not allow.
* `data`: the texts and attribute values of a document.

## Main statements

* `foreign_render`: the characters of a document that XML does not allow are those of its data.
-/
namespace TorznabGateway.Xml

/-! ## Allowed characters -/

/-- A character that may stand in a document. -/
def IsChar (c : Char) : Prop :=
  c = '\t' ∨ c = '\n' ∨ c = '\r' ∨ (0x20 ≤ c.toNat ∧ c.toNat ≤ 0xD7FF)
    ∨ (0xE000 ≤ c.toNat ∧ c.toNat ≤ 0xFFFD) ∨ (0x10000 ≤ c.toNat ∧ c.toNat ≤ 0x10FFFF)

instance (c : Char) : Decidable (IsChar c) :=
  inferInstanceAs (Decidable (_ ∨ _))

/-- The characters that may not stand in a document, in order. -/
def foreign (cs : List Char) : List Char :=
  cs.filter (¬IsChar ·)

@[simp] theorem foreign_nil : foreign [] = [] := rfl

@[simp] theorem foreign_append (cs ds : List Char) :
    foreign (cs ++ ds) = foreign cs ++ foreign ds :=
  List.filter_append cs ds

theorem foreign_cons (c : Char) (cs : List Char) :
    foreign (c :: cs) = if IsChar c then foreign cs else c :: foreign cs := by
  by_cases h : IsChar c <;> simp [foreign, h]

theorem foreign_flatMap {α : Type} (f : α → List Char) (xs : List α) :
    foreign (xs.flatMap f) = xs.flatMap fun x => foreign (f x) := by
  induction xs with
  | nil => rfl
  | cons x xs ih => rw [List.flatMap_cons, foreign_append, ih, List.flatMap_cons]

/-- The foreign characters of texts, in order. -/
def foreignIn (ts : List String) : List Char :=
  ts.flatMap fun t => foreign t.toList

@[simp] theorem foreignIn_nil : foreignIn [] = [] := rfl

@[simp] theorem foreignIn_cons (t : String) (ts : List String) :
    foreignIn (t :: ts) = foreign t.toList ++ foreignIn ts := rfl

@[simp] theorem foreignIn_append (ts us : List String) :
    foreignIn (ts ++ us) = foreignIn ts ++ foreignIn us :=
  List.flatMap_append

theorem foreignIn_flatMap {α : Type} (f : α → List String) (xs : List α) :
    foreignIn (xs.flatMap f) = xs.flatMap fun x => foreignIn (f x) := by
  rw [foreignIn, List.flatMap_assoc]
  rfl

theorem foreign_eq_nil_iff {cs : List Char} : foreign cs = [] ↔ ∀ c ∈ cs, IsChar c := by
  simp [foreign, List.filter_eq_nil_iff]

theorem foreignIn_eq_nil_iff {ts : List String} :
    foreignIn ts = [] ↔ ∀ t ∈ ts, ∀ c ∈ t.toList, IsChar c := by
  simp [foreignIn, foreign_eq_nil_iff]

theorem mem_foreign_iff {c : Char} {cs : List Char} : c ∈ foreign cs ↔ c ∈ cs ∧ ¬IsChar c := by
  simp [foreign]

theorem isChar_of_isNameChar {c : Char} (h : isNameChar c) : IsChar c := by
  have between {d e : Char} (low : d.val ≤ c.val) (high : c.val ≤ e.val) (blank : 0x20 ≤ d.toNat)
      (small : e.toNat ≤ 0x7E) : IsChar c := by
    have first : 0x20 ≤ c.toNat := Nat.le_trans blank (UInt32.le_iff_toNat_le.1 low)
    have last : c.toNat ≤ 0x7E := Nat.le_trans (UInt32.le_iff_toNat_le.1 high) small
    exact .inr (.inr (.inr (.inl ⟨first, by omega⟩)))
  simp only [isNameChar, Bool.or_eq_true, beq_iff_eq] at h
  rcases h with (((alphanumeric | rfl) | rfl) | rfl) | rfl
  · rcases Bool.or_eq_true_iff.1 alphanumeric with letter | digit
    · rcases Bool.or_eq_true_iff.1 letter with upper | lower
      · obtain ⟨low, high⟩ := of_decide_eq_true upper
        exact between (d := 'A') (e := 'Z') low high (by decide) (by decide)
      · obtain ⟨low, high⟩ := Bool.and_eq_true_iff.1 lower
        exact between (d := 'a') (e := 'z') (of_decide_eq_true low) (of_decide_eq_true high)
          (by decide) (by decide)
    · obtain ⟨low, high⟩ := Bool.and_eq_true_iff.1 digit
      exact between (d := '0') (e := '9') (of_decide_eq_true low) (of_decide_eq_true high)
        (by decide) (by decide)
  all_goals decide

theorem isChar_of_isDigit {c : Char} (h : c.isDigit) : IsChar c :=
  isChar_of_isNameChar (by simp [isNameChar, Char.isAlphanum, h])

/-! ## Data -/

/-- The texts and attribute values of an event. -/
def Event.data : Event → List String
  | .declaration | .finish _ => []
  | .start _ attributes | .empty _ attributes => attributes.map Prod.snd
  | .text s => [s]

/-- The texts and attribute values of a document, in order. -/
def data (es : List Event) : List String :=
  es.flatMap Event.data

section

variable (es fs : List Event)

@[simp] theorem data_cons (e : Event) : data (e :: es) = e.data ++ data es := rfl

@[simp] theorem data_nil : data [] = [] := rfl

@[simp] theorem data_append : data (es ++ fs) = data es ++ data fs :=
  List.flatMap_append

@[simp] theorem data_element (name : String) (attributes : List (String × String)) :
    data (element name attributes es) = attributes.map Prod.snd ++ data es := by
  rw [element, data_append, data_cons]
  exact List.append_nil _

@[simp] theorem data_textElement (name s : String) : data (textElement name s) = [s] := rfl

@[simp] theorem data_optionalElement (name : String) (s : Option String) :
    data (optionalElement name s) = s.toList := by
  cases s <;> rfl

theorem data_flatMap {α : Type} (f : α → List Event) (xs : List α) :
    data (xs.flatMap f) = xs.flatMap fun x => data (f x) :=
  List.flatMap_assoc

theorem data_map {α : Type} (f : α → Event) (xs : List α) :
    data (xs.map f) = xs.flatMap fun x => (f x).data :=
  List.flatMap_map _ _ xs

end

/-- Escaping leaves foreign characters as they are, and brings no others. -/
theorem foreign_escape (s : String) : foreign (escape s) = foreign s.toList := by
  have one (c : Char) : foreign (escapeChar c) = foreign [c] := by
    rw [escapeChar]
    split_ifs with lt gt amp apos quot
    · rw [lt]; decide
    · rw [gt]; decide
    · rw [amp]; decide
    · rw [apos]; decide
    · rw [quot]; decide
    · rfl
  rw [escape]
  induction s.toList with
  | nil => rfl
  | cons c cs ih => rw [List.flatMap_cons, foreign_append, one, ih, ← foreign_append]; rfl

theorem foreign_name {name : String} (h : IsName name) : foreign name.toList = [] :=
  foreign_eq_nil_iff.2 fun c hc => isChar_of_isNameChar (List.all_eq_true.1 h.2 c hc)

theorem foreign_attributes {attributes : List (String × String)}
    (h : ∀ a ∈ attributes, IsName a.1) :
    foreign (attributes.flatMap attributeChars)
      = foreignIn (attributes.map Prod.snd) := by
  rw [foreign_flatMap, foreignIn, List.flatMap_map]
  refine List.flatMap_congr fun a ha => ?_
  have blank : foreign [' '] = [] := by decide
  have quote : foreign ['"'] = [] := by decide
  have equals : foreign ['=', '"'] = [] := by decide
  calc foreign (attributeChars a)
      = foreign ([' '] ++ a.1.toList ++ ['=', '"'] ++ escape a.2 ++ ['"']) := by
        simp [attributeChars]
    _ = foreign a.2.toList := by
        simp only [foreign_append, blank, quote, equals, foreign_name (h a ha), foreign_escape,
          List.nil_append, List.append_nil]

/-- The foreign characters of a tag are those of its attribute values. -/
theorem foreign_tag {e : Event} (h : e.IsTag) :
    foreign e.chars = foreignIn e.data := by
  have bracket : foreign ['<'] = [] ∧ foreign ['>'] = [] ∧ foreign ['/'] = [] := by decide
  obtain ⟨opens, closes, slash⟩ := bracket
  cases e with
  | declaration => decide
  | text s => exact h.elim
  | finish name =>
    calc foreign ('<' :: '/' :: name.toList ++ ['>'])
        = foreign (['<'] ++ ['/'] ++ name.toList ++ ['>']) := rfl
      _ = [] := by simp only [foreign_append, opens, closes, slash, foreign_name h]; rfl
  | start name attributes =>
    calc foreign ('<' :: tagChars name attributes ++ ['>'])
        = foreign (['<'] ++ (name.toList ++ attributes.flatMap attributeChars) ++ ['>']) := rfl
      _ = foreignIn (attributes.map Prod.snd) := by
        simp only [foreign_append, opens, closes, foreign_name h.1, foreign_attributes h.2,
          List.nil_append, List.append_nil]
  | empty name attributes =>
    calc foreign ('<' :: tagChars name attributes ++ ['/', '>'])
        = foreign (['<'] ++ (name.toList ++ attributes.flatMap attributeChars) ++ ['/']
            ++ ['>']) := by simp [tagChars]
      _ = foreignIn (attributes.map Prod.snd) := by
        simp only [foreign_append, opens, closes, slash, foreign_name h.1, foreign_attributes h.2,
          List.nil_append, List.append_nil]

/-- The characters of a document that XML does not allow are those of its data. -/
theorem foreign_render {es : List Event} (h : Readable es) :
    foreign (render es).toList = foreignIn (data es) := by
  rw [render, String.toList_ofList]
  induction h with
  | nil => rfl
  | @tag e es tag _ ih =>
    rw [List.flatMap_cons, foreign_append, foreign_tag tag, ih, data_cons, foreignIn_append]
  | @text s e es tag _ ih =>
    have own : foreign (Event.text s).chars = foreignIn (Event.text s).data := by
      rw [Event.data, foreignIn_cons, foreignIn_nil, List.append_nil]
      exact foreign_escape s
    rw [List.flatMap_cons, foreign_append, own, ih, data_cons _ (.text s), foreignIn_append]

end TorznabGateway.Xml
