import TorznabGateway.Proofs.Xml.Reading

/-!
# What elements hold

Looking into a document that was read: what stands inside the elements of a name, the texts of
these elements, and the attributes of the tags without content. Elements of one name are taken not
to stand inside each other.

## Main definitions

* `contents`, `texts`: what stands inside the elements of a name, and their texts.
* `emptyTags`: the attributes of the tags of a name without content.
* `Lacks`: whether no element of a name begins or ends.

## Main statements

* `contents_element_append`: the content of an element is found.
* `contents_written`, `texts_written`, `emptyTags_written`: what a reader misses makes no
  difference.
-/
namespace TorznabGateway.Xml

/-! ## Elements -/

/-- What stands inside the elements of a name, in order. -/
def contents (name : String) : List Event → List (List Event)
  | [] => []
  | .start n _ :: es =>
    if n = name then es.takeWhile (· ≠ .finish name) :: contents name es else contents name es
  | _ :: es => contents name es

/-- The texts of events, one after another. -/
def textContent : List Event → String
  | [] => ""
  | .text s :: es => s ++ textContent es
  | _ :: es => textContent es

/-- The texts of the elements of a name, in order. -/
def texts (name : String) (es : List Event) : List String :=
  (contents name es).map textContent

/-- The attributes of a tag without content that has the name. -/
def Event.emptyTag? (name : String) : Event → Option (List (String × String))
  | .empty n attributes => if n = name then some attributes else none
  | _ => none

/-- The attributes of the tags of a name without content, in order. -/
def emptyTags (name : String) (es : List Event) : List (List (String × String)) :=
  es.filterMap (Event.emptyTag? name)

/-- The element that begins or ends with an event. -/
def Event.bound? : Event → Option String
  | .start name _ | .finish name => some name
  | _ => none

/-- Whether no element of a name begins or ends. -/
def Lacks (name : String) (es : List Event) : Prop :=
  ∀ e ∈ es, e.bound? ≠ some name

instance (name : String) (es : List Event) : Decidable (Lacks name es) :=
  inferInstanceAs (Decidable (∀ e ∈ es, e.bound? ≠ some name))

variable {name : String} {es fs : List Event}

theorem Lacks.append (h : Lacks name es) (h' : Lacks name fs) : Lacks name (es ++ fs) :=
  List.forall_mem_append.2 ⟨h, h'⟩

theorem lacks_textElement {n : String} (h : n ≠ name) (s : String) :
    Lacks name (textElement n s) := by
  simp [Lacks, textElement, Event.bound?, h]

theorem lacks_optionalElement {n : String} (h : n ≠ name) (s : Option String) :
    Lacks name (optionalElement n s) := by
  cases s with
  | none => exact List.forall_mem_nil _
  | some s => exact lacks_textElement h s

theorem Lacks.flatMap {α : Type} {f : α → List Event} {xs : List α}
    (h : ∀ x, Lacks name (f x)) : Lacks name (xs.flatMap f) := by
  intro e he
  obtain ⟨x, -, member⟩ := List.mem_flatMap.1 he
  exact h x e member

/-- Tags without content begin and end no element. -/
theorem lacks_of_forall (h : ∀ e ∈ es, e.bound? = none) : Lacks name es := by
  intro e he same
  rw [h e he] at same
  cases same

theorem contents_cons {e : Event} (h : e.bound? ≠ some name) :
    contents name (e :: es) = contents name es := by
  cases e with
  | start n attributes => exact if_neg fun same => h (congrArg some same)
  | _ => rfl

theorem contents_append_of_lacks (h : Lacks name es) :
    contents name (es ++ fs) = contents name fs := by
  induction es with
  | nil => rfl
  | cons e es ih =>
    obtain ⟨first, others⟩ := List.forall_mem_cons.1 h
    rw [List.cons_append, contents_cons first, ih others]

theorem contents_of_lacks (h : Lacks name es) : contents name es = [] := by
  rw [← List.append_nil es, contents_append_of_lacks h, contents]

/-- The content of an element is found. -/
theorem contents_element_append (h : Lacks name es) (attributes : List (String × String))
    (fs : List Event) :
    contents name (element name attributes es ++ fs) = es :: contents name fs := by
  have before : ∀ e ∈ es, decide (e ≠ .finish name) := by
    rintro e he
    exact decide_eq_true fun same => h e he (same ▸ rfl)
  have content : (es ++ .finish name :: fs).takeWhile (· ≠ .finish name) = es := by
    rw [List.takeWhile_append_of_pos before]
    simp
  have shape : element name attributes es ++ fs
      = .start name attributes :: (es ++ .finish name :: fs) := by
    simp [element]
  rw [shape, contents, if_pos rfl, content, contents_append_of_lacks h]
  rfl

/-! ## Texts -/

theorem texts_append_of_lacks (h : Lacks name es) : texts name (es ++ fs) = texts name fs := by
  rw [texts, contents_append_of_lacks h, texts]

theorem texts_of_lacks (h : Lacks name es) : texts name es = [] := by
  rw [texts, contents_of_lacks h, List.map_nil]

@[simp] theorem texts_textElement_append (name n s : String) (es : List Event) :
    texts name (textElement n s ++ es) = (if n = name then [s] else []) ++ texts name es := by
  split
  case isTrue same =>
    have lacks : Lacks name [.text s] := by simp [Lacks, Event.bound?]
    have element : textElement n s = element name [] [.text s] := by rw [same]; rfl
    rw [texts, element, contents_element_append lacks, List.map_cons, texts]
    simp [textContent]
  case isFalse other => exact texts_append_of_lacks (lacks_textElement other s)

@[simp] theorem texts_optionalElement_append (name n : String) (s : Option String)
    (es : List Event) :
    texts name (optionalElement n s ++ es)
      = (if n = name then s.toList else []) ++ texts name es := by
  cases s with
  | none => simp [optionalElement]
  | some s => exact texts_textElement_append name n s es

theorem texts_flatMap_textElement {α : Type} (name n : String) (f : α → String) (xs : List α)
    (es : List Event) :
    texts name (xs.flatMap (fun x => textElement n (f x)) ++ es)
      = (if n = name then xs.map f else []) ++ texts name es := by
  induction xs with
  | nil => simp
  | cons x xs ih =>
    rw [List.flatMap_cons, List.append_assoc, texts_textElement_append, ih]
    split <;> simp

/-! ## Tags without content -/

@[simp] theorem emptyTags_append (name : String) (es fs : List Event) :
    emptyTags name (es ++ fs) = emptyTags name es ++ emptyTags name fs :=
  List.filterMap_append

@[simp] theorem emptyTags_textElement (name n s : String) : emptyTags name (textElement n s) = [] :=
  rfl

@[simp] theorem emptyTags_empty (name n : String) (attributes : List (String × String))
    (es : List Event) :
    emptyTags name (.empty n attributes :: es)
      = (if n = name then [attributes] else []) ++ emptyTags name es := by
  rw [← List.singleton_append, emptyTags_append]
  congr 1
  split
  case isTrue same => simp [emptyTags, Event.emptyTag?, same]
  case isFalse other => simp [emptyTags, Event.emptyTag?, other]

@[simp] theorem emptyTags_map (name n : String) {α : Type} (f : α → List (String × String))
    (xs : List α) :
    emptyTags name (xs.map fun x => .empty n (f x)) = if n = name then xs.map f else [] := by
  induction xs with
  | nil => simp [emptyTags]
  | cons x xs ih =>
    rw [List.map_cons, emptyTags_empty, ih]
    split <;> rfl

/-! ## What a reader misses -/

theorem written_cons_empty (es : List Event) : written (.text "" :: es) = written es := by
  simp [written]

theorem written_cons {e : Event} (h : e ≠ .text "") (es : List Event) :
    written (e :: es) = e :: written es := by
  simp [written, h]

theorem textContent_written (es : List Event) : textContent (written es) = textContent es := by
  induction es with
  | nil => rfl
  | cons e es ih =>
    by_cases empty : e = .text ""
    · rw [empty, written_cons_empty, ih]
      simp [textContent]
    · rw [written_cons empty]
      cases e <;> simp only [textContent, ih]

theorem takeWhile_written (name : String) (es : List Event) :
    (written es).takeWhile (· ≠ .finish name) = written (es.takeWhile (· ≠ .finish name)) := by
  induction es with
  | nil => rfl
  | cons e es ih =>
    by_cases empty : e = .text ""
    · subst empty
      simpa [written_cons_empty] using ih
    · rw [written_cons empty, List.takeWhile_cons, List.takeWhile_cons]
      split
      case isTrue => rw [ih, written_cons empty]
      case isFalse => rfl

theorem contents_written (name : String) (es : List Event) :
    contents name (written es) = (contents name es).map written := by
  induction es with
  | nil => rfl
  | cons e es ih =>
    by_cases empty : e = .text ""
    · rw [empty, written_cons_empty, ih]
      rfl
    · rw [written_cons empty]
      cases e with
      | start n attributes =>
        rw [contents, contents, takeWhile_written, ih]
        split <;> rfl
      | _ => exact ih

theorem texts_written (name : String) (es : List Event) :
    texts name (written es) = texts name es := by
  rw [texts, contents_written, List.map_map, texts]
  exact List.map_congr_left fun c _ => textContent_written c

theorem emptyTags_written (name : String) (es : List Event) :
    emptyTags name (written es) = emptyTags name es :=
  filterMap_written rfl es

/-- Elements that are each read as what they were written for are read in order, if there are no
more of them before and behind. -/
theorem mapM_contents_written {α β : Type} {f : α → List Event} {read : List Event → Option β}
    {out : α → β} {xs : List α}
    (h : ∀ x ∈ xs, ∃ attributes body, f x = element name attributes body ∧ Lacks name body
      ∧ read (written body) = some (out x))
    (before : Lacks name es) (behind : Lacks name fs) :
    (contents name (written (es ++ (xs.flatMap f ++ fs)))).mapM read = some (xs.map out) := by
  rw [contents_written, contents_append_of_lacks before]
  induction xs with
  | nil =>
    rw [List.flatMap_nil, List.nil_append, contents_of_lacks behind]
    rfl
  | cons x xs ih =>
    obtain ⟨⟨attributes, body, shape, lacks, result⟩, others⟩ := List.forall_mem_cons.1 h
    rw [List.flatMap_cons, List.append_assoc, shape, contents_element_append lacks, List.map_cons,
      List.mapM_cons, result, ih others]
    rfl

end TorznabGateway.Xml
