import Mathlib.Data.List.Basic
import TorznabGateway.Text.Scan
import TorznabGateway.Xml

/-!
# XML documents are read back

A reader of XML that shares nothing with the writer but the type of events. Data cannot end a text
or a quoted value early and cannot begin an entity, so a document is read back event by event, with
the entities of its data replaced. An element without content has no text, so empty texts are not
read back.

## Main definitions

* `unescape?`: the data that a spelling stands for.
* `read?`: the events of a document.
* `Readable`: the documents that the reader can take apart.
* `written`: what there is to read of a document.
* `Event.tag?`: a tag with the names of its attributes.

## Main statements

* `unescape?_escape`: replacing the entities undoes the escaping.
* `read?_render`: a document is read back.
-/
namespace TorznabGateway.Xml

/-! ## Entities -/

/-- The data that a spelling stands for: the five entities are replaced. An ampersand that begins
none of them and an angle bracket that would open a tag stand for nothing. -/
def unescape? : List Char → Option (List Char)
  | '&' :: 'l' :: 't' :: ';' :: cs => (unescape? cs).map ('<' :: ·)
  | '&' :: 'g' :: 't' :: ';' :: cs => (unescape? cs).map ('>' :: ·)
  | '&' :: 'a' :: 'm' :: 'p' :: ';' :: cs => (unescape? cs).map ('&' :: ·)
  | '&' :: 'a' :: 'p' :: 'o' :: 's' :: ';' :: cs => (unescape? cs).map ('\x27' :: ·)
  | '&' :: 'q' :: 'u' :: 'o' :: 't' :: ';' :: cs => (unescape? cs).map ('"' :: ·)
  | '&' :: _ => none
  | '<' :: _ => none
  | c :: cs => (unescape? cs).map (c :: ·)
  | [] => some []

theorem unescape?_cons {c : Char} (amp : c ≠ '&') (lt : c ≠ '<') (cs : List Char) :
    unescape? (c :: cs) = (unescape? cs).map (c :: ·) := by
  conv_lhs => unfold unescape?
  split <;> simp_all

theorem unescape?_escapeChar (c : Char) (cs : List Char) :
    unescape? (escapeChar c ++ cs) = (unescape? cs).map (c :: ·) := by
  rw [escapeChar]
  split_ifs with lt gt amp apos quot
  · rw [lt]; rfl
  · rw [gt]; rfl
  · rw [amp]; rfl
  · rw [apos]; rfl
  · rw [quot]; rfl
  · exact unescape?_cons amp lt cs

/-- Replacing the entities undoes the escaping. -/
theorem unescape?_escape (s : String) : unescape? (escape s) = some s.toList := by
  rw [escape]
  induction s.toList with
  | nil => rfl
  | cons c cs ih => rw [List.flatMap_cons, unescape?_escapeChar, ih, Option.map_some]

example : unescape? "a &lt; b &amp;amp; c".toList = some "a < b &amp; c".toList := by decide

/-- No spelling of a character has a bracket or a quotation mark in it. -/
theorem delimiter_not_mem_escapeChar (c : Char) :
    ∀ d ∈ escapeChar c, d ≠ '<' ∧ d ≠ '>' ∧ d ≠ '"' := by
  rw [escapeChar]
  split_ifs with lt gt amp apos quot
  iterate 5 simp
  simp [lt, gt, quot]

theorem delimiter_not_mem_escape (s : String) : ∀ d ∈ escape s, d ≠ '<' ∧ d ≠ '>' ∧ d ≠ '"' := by
  intro d hd
  obtain ⟨c, -, hc⟩ := List.mem_flatMap.1 hd
  exact delimiter_not_mem_escapeChar c d hc

/-! ## The reader -/

/-- A character of a name. -/
def isNameChar (c : Char) : Bool :=
  c.isAlphanum || c == ':' || c == '-' || c == '_' || c == '.'

/-- The name at the front, and the rest. -/
def readName? (cs : List Char) : Option (String × List Char) :=
  match cs.takeWhile isNameChar with
  | [] => none
  | name => some (.ofList name, cs.dropWhile isNameChar)

/-- The value behind its opening quotation mark, and the rest. -/
def readQuoted? (cs : List Char) : Option (String × List Char) :=
  match cs.dropWhile (· ≠ '"') with
  | '"' :: rest => (unescape? (cs.takeWhile (· ≠ '"'))).map fun value => (.ofList value, rest)
  | _ => none

/-- The attribute behind a blank, and the rest. -/
def readAttribute? : List Char → Option ((String × String) × List Char)
  | ' ' :: cs => do
    let (name, rest) ← readName? cs
    match rest with
    | '=' :: '"' :: rest =>
      let (value, rest) ← readQuoted? rest
      some ((name, value), rest)
    | _ => none
  | _ => none

/-- The attributes at the front, as far as there are any, and the rest. -/
def readAttributes (cs : List Char) : List (String × String) × List Char :=
  match readAttribute? cs with
  | some (a, rest) =>
    if rest.length < cs.length then (readAttributes rest).map (a :: ·) id else ([], cs)
  | none => ([], cs)
termination_by cs.length

/-- The name and attributes of a tag, and the rest. -/
def readHead? (cs : List Char) : Option (String × List (String × String) × List Char) :=
  (readName? cs).map fun p => (p.1, readAttributes p.2)

/-- The declaration behind `<?`, and the rest. -/
def readDeclaration? (cs : List Char) : Option (Event × List Char) := do
  let (name, attributes, rest) ← readHead? cs
  match rest with
  | '?' :: '>' :: rest =>
    if name = "xml" ∧ attributes = [("version", "1.0"), ("encoding", "UTF-8")]
    then some (.declaration, rest) else none
  | _ => none

/-- The end tag behind `</`, and the rest. -/
def readEndTag? (cs : List Char) : Option (Event × List Char) := do
  let (name, rest) ← readName? cs
  match rest with
  | '>' :: rest => some (.finish name, rest)
  | _ => none

/-- The tag behind `<`, and the rest. -/
def readTag? (cs : List Char) : Option (Event × List Char) := do
  let (name, attributes, rest) ← readHead? cs
  match rest with
  | '>' :: rest => some (.start name attributes, rest)
  | '/' :: '>' :: rest => some (.empty name attributes, rest)
  | _ => none

/-- The text up to the next tag, and the rest. -/
def readText? (cs : List Char) : Option (Event × List Char) :=
  (unescape? (cs.takeWhile (· ≠ '<'))).map fun s => (.text (.ofList s), cs.dropWhile (· ≠ '<'))

/-- The first event, and the rest. -/
def readEvent? : List Char → Option (Event × List Char)
  | '<' :: '?' :: cs => readDeclaration? cs
  | '<' :: '/' :: cs => readEndTag? cs
  | '<' :: cs => readTag? cs
  | cs => readText? cs

/-- The events of a document. Every event takes some of the characters. -/
def readEvents? (cs : List Char) : Option (List Event) :=
  if cs.isEmpty then some []
  else match readEvent? cs with
    | some (e, rest) =>
      if rest.length < cs.length then (readEvents? rest).map (e :: ·) else none
    | none => none
termination_by cs.length

/-- The events of a document. -/
def read? (s : String) : Option (List Event) :=
  readEvents? s.toList

/-! ## Reading what was written -/

/-- Whether a name is spelled as one. -/
def IsName (name : String) : Prop :=
  name ≠ "" ∧ name.toList.all isNameChar

instance (name : String) : Decidable (IsName name) :=
  inferInstanceAs (Decidable (name ≠ "" ∧ name.toList.all isNameChar))

/-- What was cut off at the first character of another kind. -/
theorem cut_append {α : Type} {p : α → Bool} {w : List α} {c : α} (hw : ∀ x ∈ w, p x)
    (hc : p c = false) (rest : List α) :
    (w ++ c :: rest).takeWhile p = w ∧ (w ++ c :: rest).dropWhile p = c :: rest := by
  have ends : ∀ x ∈ (c :: rest).head?, p x = false := by
    rintro x ⟨⟩
    exact hc
  exact ⟨Text.takeWhile_append_of_head? hw ends, Text.dropWhile_append_of_head? hw ends⟩

theorem readName?_append {name : String} (h : IsName name) {c : Char} (hc : isNameChar c = false)
    (rest : List Char) : readName? (name.toList ++ c :: rest) = some (name, c :: rest) := by
  obtain ⟨nonempty, chars⟩ := h
  obtain ⟨taken, dropped⟩ := cut_append (List.all_eq_true.1 chars) hc rest
  rw [readName?, taken, dropped]
  split
  case h_1 empty => exact absurd (String.toList_eq_nil_iff.1 empty) nonempty
  case h_2 => rw [String.ofList_toList]

theorem readQuoted?_append (value : String) (rest : List Char) :
    readQuoted? (escape value ++ '"' :: rest) = some (value, rest) := by
  have inner : ∀ d ∈ escape value, decide (d ≠ '"') := fun d hd =>
    decide_eq_true (delimiter_not_mem_escape value d hd).2.2
  obtain ⟨taken, dropped⟩ := cut_append inner (c := '"') (by decide) rest
  simp only [readQuoted?, dropped, taken, unescape?_escape, Option.map_some, String.ofList_toList]

theorem readAttribute?_append {a : String × String} (h : IsName a.1) (rest : List Char) :
    readAttribute? (attributeChars a ++ rest) = some (a, rest) := by
  have shape : attributeChars a ++ rest
      = ' ' :: (a.1.toList ++ '=' :: '"' :: (escape a.2 ++ '"' :: rest)) := by
    simp [attributeChars]
  simp [shape, readAttribute?, readName?_append h (c := '=') (by decide), readQuoted?_append]

/-- Attributes are read back in front of anything that is not a blank. -/
theorem readAttributes_append {attributes : List (String × String)}
    (h : ∀ a ∈ attributes, IsName a.1) {rest : List Char} (ends : rest.head? ≠ some ' ') :
    readAttributes (attributes.flatMap attributeChars ++ rest) = (attributes, rest) := by
  induction attributes with
  | nil =>
    have stop : readAttribute? rest = none := by
      unfold readAttribute?
      split
      · exact absurd rfl ends
      · rfl
    rw [List.flatMap_nil, List.nil_append, readAttributes, stop]
  | cons a attributes ih =>
    obtain ⟨first, others⟩ := List.forall_mem_cons.1 h
    have shorter : (attributes.flatMap attributeChars ++ rest).length
        < (attributeChars a ++ (attributes.flatMap attributeChars ++ rest)).length := by
      simp [attributeChars]
      omega
    rw [List.flatMap_cons, List.append_assoc, readAttributes, readAttribute?_append first]
    dsimp only
    rw [if_pos shorter, ih others]
    rfl

/-- A tag ends its name and attributes with a character of no name that is no blank. -/
theorem readHead?_append {name : String} {attributes : List (String × String)} {c : Char}
    (hn : IsName name) (ha : ∀ a ∈ attributes, IsName a.1) (hc : isNameChar c = false)
    (blank : c ≠ ' ') (rest : List Char) :
    readHead? (tagChars name attributes ++ c :: rest) = some (name, attributes, c :: rest) := by
  have read : readAttributes (attributes.flatMap attributeChars ++ c :: rest)
      = (attributes, c :: rest) := readAttributes_append ha (by simpa using blank)
  rw [readHead?, tagChars, List.append_assoc]
  cases attributes with
  | nil =>
    rw [List.flatMap_nil, List.nil_append] at read ⊢
    rw [readName?_append hn hc, Option.map_some, read]
  | cons a attributes =>
    obtain ⟨tail, behind⟩ : ∃ tail,
        (a :: attributes).flatMap attributeChars ++ c :: rest = ' ' :: tail := by
      simp [attributeChars]
    rw [behind] at read ⊢
    rw [readName?_append hn (by decide), Option.map_some, read]

theorem readEvent?_open {cs : List Char} (h : ∀ c ∈ cs.head?, c ≠ '?' ∧ c ≠ '/') :
    readEvent? ('<' :: cs) = readTag? cs := by
  rw [readEvent?]
  · rintro tail rfl
    exact (h '?' rfl).1 rfl
  · rintro tail rfl
    exact (h '/' rfl).2 rfl

theorem head?_tagChars {name : String} (h : IsName name) (attributes : List (String × String))
    (rest : List Char) :
    ∀ c ∈ (tagChars name attributes ++ rest).head?, c ≠ '?' ∧ c ≠ '/' := by
  obtain ⟨nonempty, chars⟩ := h
  rw [tagChars]
  cases spelled : name.toList with
  | nil => exact absurd (String.toList_eq_nil_iff.1 spelled) nonempty
  | cons d ds =>
    have letter := List.all_eq_true.1 chars d (spelled ▸ List.mem_cons_self)
    rw [List.cons_append, List.cons_append, List.head?_cons]
    rintro _ ⟨⟩
    constructor <;> rintro rfl <;> exact absurd letter (by decide)

/-! ### Tags -/

/-- Whether an event is a tag whose names are spelled as names. -/
def Event.IsTag : Event → Prop
  | .declaration => True
  | .start name attributes | .empty name attributes => IsName name ∧ ∀ a ∈ attributes, IsName a.1
  | .text _ => False
  | .finish name => IsName name

/-- The attributes of a tag count by their names, so their values need not be known. -/
theorem Event.isTag_empty {name : String} {attributes : List (String × String)}
    (keys : List String) (named : attributes.map Prod.fst = keys)
    (h : ∀ n ∈ name :: keys, IsName n) : (Event.empty name attributes).IsTag := by
  obtain ⟨first, others⟩ := List.forall_mem_cons.1 h
  subst named
  exact ⟨first, List.forall_mem_map.1 others⟩

/-- The declaration is spelled like a tag with two attributes. -/
theorem chars_declaration : Event.declaration.chars
    = '<' :: '?' :: (tagChars "xml" [("version", "1.0"), ("encoding", "UTF-8")] ++ ['?', '>']) := by
  decide

theorem readEvent?_declaration (rest : List Char) :
    readEvent? (Event.declaration.chars ++ rest) = some (.declaration, rest) := by
  have head : readHead?
      (tagChars "xml" [("version", "1.0"), ("encoding", "UTF-8")] ++ '?' :: '>' :: rest)
      = some ("xml", [("version", "1.0"), ("encoding", "UTF-8")], '?' :: '>' :: rest) :=
    readHead?_append (by decide) (by decide) (by decide) (by decide) _
  simp [chars_declaration, readEvent?, readDeclaration?, head]

theorem readEvent?_start {name : String} {attributes : List (String × String)}
    (h : (Event.start name attributes).IsTag) (rest : List Char) :
    readEvent? ((Event.start name attributes).chars ++ rest)
      = some (.start name attributes, rest) := by
  have shape : (Event.start name attributes).chars ++ rest
      = '<' :: (tagChars name attributes ++ '>' :: rest) := by
    change '<' :: tagChars name attributes ++ ['>'] ++ rest = _
    simp
  rw [shape, readEvent?_open (head?_tagChars h.1 _ _), readTag?,
    readHead?_append h.1 h.2 (by decide) (by decide)]
  rfl

theorem readEvent?_empty {name : String} {attributes : List (String × String)}
    (h : (Event.empty name attributes).IsTag) (rest : List Char) :
    readEvent? ((Event.empty name attributes).chars ++ rest)
      = some (.empty name attributes, rest) := by
  have shape : (Event.empty name attributes).chars ++ rest
      = '<' :: (tagChars name attributes ++ '/' :: '>' :: rest) := by
    change '<' :: tagChars name attributes ++ ['/', '>'] ++ rest = _
    simp
  rw [shape, readEvent?_open (head?_tagChars h.1 _ _), readTag?,
    readHead?_append h.1 h.2 (by decide) (by decide)]
  rfl

theorem readEvent?_finish {name : String} (h : IsName name) (rest : List Char) :
    readEvent? ((Event.finish name).chars ++ rest) = some (.finish name, rest) := by
  have shape : (Event.finish name).chars ++ rest = '<' :: '/' :: (name.toList ++ '>' :: rest) := by
    change '<' :: '/' :: name.toList ++ ['>'] ++ rest = _
    simp
  rw [shape, readEvent?, readEndTag?, readName?_append h (by decide)]
  rfl

/-- A tag is read back, whatever stands behind it. -/
theorem readEvent?_tag {e : Event} (h : e.IsTag) (rest : List Char) :
    readEvent? (e.chars ++ rest) = some (e, rest) := by
  cases e with
  | declaration => exact readEvent?_declaration rest
  | start name attributes => exact readEvent?_start h rest
  | empty name attributes => exact readEvent?_empty h rest
  | text s => exact h.elim
  | finish name => exact readEvent?_finish h rest

theorem Event.IsTag.exists_chars {e : Event} (h : e.IsTag) : ∃ cs, e.chars = '<' :: cs := by
  cases e with
  | declaration => exact ⟨_, chars_declaration⟩
  | start name attributes => exact ⟨_, rfl⟩
  | empty name attributes => exact ⟨_, rfl⟩
  | text s => exact h.elim
  | finish name => exact ⟨_, rfl⟩

/-! ### Documents -/

theorem escape_ne_nil {s : String} (nonempty : s ≠ "") : escape s ≠ [] := by
  intro none
  have back := unescape?_escape s
  rw [none, unescape?, Option.some.injEq] at back
  exact nonempty (String.toList_eq_nil_iff.1 back.symm)

/-- A text that is not empty is read back in front of a tag. -/
theorem readEvent?_text {s : String} (nonempty : s ≠ "") (rest : List Char) :
    readEvent? (escape s ++ '<' :: rest) = some (.text s, '<' :: rest) := by
  have inner : ∀ d ∈ escape s, decide (d ≠ '<') := fun d hd =>
    decide_eq_true (delimiter_not_mem_escape s d hd).1
  obtain ⟨taken, dropped⟩ := cut_append inner (c := '<') (by decide) rest
  have text : readEvent? (escape s ++ '<' :: rest) = readText? (escape s ++ '<' :: rest) := by
    cases spelled : escape s with
    | nil => exact absurd spelled (escape_ne_nil nonempty)
    | cons d ds =>
      have first := (delimiter_not_mem_escape s d (spelled ▸ List.mem_cons_self)).1
      rw [List.cons_append, readEvent?]
      all_goals
        intro tail same
        exact first (List.cons.inj same).1
  rw [text, readText?, taken, dropped, unescape?_escape, Option.map_some, String.ofList_toList]

/-- The documents that can be taken apart: the names are spelled as names, and each text is ended by
a tag. -/
inductive Readable : List Event → Prop where
  | nil : Readable []
  | tag {e : Event} {es : List Event} : e.IsTag → Readable es → Readable (e :: es)
  | text (s : String) {e : Event} {es : List Event} :
      e.IsTag → Readable (e :: es) → Readable (.text s :: e :: es)

/-- What there is to read: an element without content has no text. -/
def written (es : List Event) : List Event :=
  es.filter (· ≠ .text "")

theorem readEvents?_append {w rest : List Char} {e : Event} (nonempty : w ≠ [])
    (h : readEvent? (w ++ rest) = some (e, rest)) :
    readEvents? (w ++ rest) = (readEvents? rest).map (e :: ·) := by
  have more : (w ++ rest).isEmpty = false := by simp [nonempty]
  have shorter : rest.length < (w ++ rest).length := by
    simp [List.length_pos_iff.2 nonempty]
  conv_lhs => rw [readEvents?, if_neg (by simp [more]), h]
  exact if_pos shorter

theorem readEvents?_chars {es : List Event} (h : Readable es) :
    readEvents? (es.flatMap Event.chars) = some (written es) := by
  induction h with
  | nil => rw [List.flatMap_nil, readEvents?]; rfl
  | @tag e es tag _ ih =>
    obtain ⟨cs, chars⟩ := tag.exists_chars
    have data : e ≠ .text "" := by rintro rfl; exact tag
    rw [List.flatMap_cons, readEvents?_append (by simp [chars]) (readEvent?_tag tag _), ih]
    simp [written, data]
  | @text s e es tag _ ih =>
    rw [List.flatMap_cons]
    by_cases empty : s = ""
    · subst empty
      exact ih
    · obtain ⟨cs, chars⟩ := tag.exists_chars
      have behind : (e :: es).flatMap Event.chars = '<' :: (cs ++ es.flatMap Event.chars) := by
        rw [List.flatMap_cons, chars, List.cons_append]
      have read : readEvent? (escape s ++ (e :: es).flatMap Event.chars)
          = some (.text s, (e :: es).flatMap Event.chars) := by
        rw [behind]
        exact readEvent?_text empty _
      change readEvents? (escape s ++ _) = _
      rw [readEvents?_append (escape_ne_nil empty) read, ih]
      simp [written, empty]

/-- A document is read back. -/
theorem read?_render {es : List Event} (h : Readable es) :
    read? (render es) = some (written es) := by
  rw [read?, render, String.toList_ofList, readEvents?_chars h]

example : read? "<a b=\"1 &lt; 2\"><c/>x</a>"
    = some [.start "a" [("b", "1 < 2")], .empty "c" [], .text "x", .finish "a"] := by
  decide +kernel

/-! ### Parts of documents -/

namespace Readable

variable {es fs : List Event} {name : String} {attributes : List (String × String)}

theorem append (h : Readable es) (h' : Readable fs) : Readable (es ++ fs) := by
  induction h with
  | nil => exact h'
  | tag t _ ih => exact .tag t ih
  | text s t _ ih => exact .text s t ih

theorem flatMap {α : Type} {f : α → List Event} {xs : List α} (h : ∀ x ∈ xs, Readable (f x)) :
    Readable (xs.flatMap f) := by
  induction xs with
  | nil => exact .nil
  | cons x xs ih =>
    obtain ⟨first, others⟩ := List.forall_mem_cons.1 h
    exact first.append (ih others)

theorem map {α : Type} {f : α → Event} {xs : List α} (h : ∀ x ∈ xs, (f x).IsTag) :
    Readable (xs.map f) := by
  induction xs with
  | nil => exact .nil
  | cons x xs ih =>
    obtain ⟨first, others⟩ := List.forall_mem_cons.1 h
    exact .tag first (ih others)

theorem element (hn : IsName name) (ha : ∀ a ∈ attributes, IsName a.1) (h : Readable es) :
    Readable (element name attributes es) :=
  .tag ⟨hn, ha⟩ (h.append (.tag (e := .finish name) hn .nil))

theorem textElement (hn : IsName name) (s : String) : Readable (textElement name s) :=
  .tag (e := .start name []) ⟨hn, by simp⟩ (.text s (e := .finish name) hn (.tag hn .nil))

theorem optionalElement (hn : IsName name) (s : Option String) :
    Readable (optionalElement name s) := by
  cases s with
  | none => exact .nil
  | some s => exact textElement hn s

end Readable

/-! ## Tags -/

/-- A tag with the names of its attributes and without their values. -/
inductive Tag where
  | declaration
  | start (name : String) (attributes : List String)
  | empty (name : String) (attributes : List String)
  | finish (name : String)
  deriving DecidableEq, Repr

/-- The tag that an event is. -/
def Event.tag? : Event → Option Tag
  | .declaration => some .declaration
  | .start name attributes => some (.start name (attributes.map Prod.fst))
  | .empty name attributes => some (.empty name (attributes.map Prod.fst))
  | .text _ => none
  | .finish name => some (.finish name)

/-- The tags of a document in order. -/
def tags (es : List Event) : List Tag :=
  es.filterMap Event.tag?

@[simp] theorem tags_append (es fs : List Event) : tags (es ++ fs) = tags es ++ tags fs :=
  List.filterMap_append

theorem tags_cons (e : Event) (es : List Event) : tags (e :: es) = tags [e] ++ tags es :=
  tags_append [e] es

@[simp] theorem tags_declaration (es : List Event) :
    tags (.declaration :: es) = .declaration :: tags es :=
  rfl

theorem tags_element (name : String) (attributes : List (String × String)) (es : List Event) :
    tags (element name attributes es)
      = .start name (attributes.map Prod.fst) :: tags es ++ [.finish name] := by
  rw [element, List.cons_append, tags_cons, tags_append]
  rfl

@[simp] theorem tags_textElement (name s : String) :
    tags (textElement name s) = [.start name [], .finish name] :=
  rfl

theorem tags_optionalElement (name : String) (s : Option String) :
    tags (optionalElement name s) = if s.isSome then [.start name [], .finish name] else [] := by
  cases s <;> rfl

theorem tags_flatMap_of_forall {α : Type} {f : α → List Event} {ts : List Tag}
    (h : ∀ x, tags (f x) = ts) (xs : List α) :
    tags (xs.flatMap f) = (List.replicate xs.length ts).flatten := by
  induction xs with
  | nil => rfl
  | cons x xs ih =>
    rw [List.flatMap_cons, tags_append, h, ih, List.length_cons, List.replicate_succ,
      List.flatten_cons]

theorem tags_map {α : Type} {f : α → Event} {tag : α → Tag} (h : ∀ x, (f x).tag? = some (tag x))
    (xs : List α) : tags (xs.map f) = xs.map tag := by
  rw [tags, List.filterMap_map]
  exact (List.filterMap_congr fun x _ => h x).trans (congrFun List.filterMap_eq_map xs)

/-- Documents have the same tags if their parts have. -/
theorem tags_flatMap_eq {α κ : Type} {key : α → κ} {f g : α → List Event}
    (h : ∀ x y, key x = key y → tags (f x) = tags (g y)) {xs ys : List α}
    (same : xs.map key = ys.map key) : tags (xs.flatMap f) = tags (ys.flatMap g) := by
  induction xs generalizing ys with
  | nil => rw [List.map_eq_nil_iff.1 same.symm]; rfl
  | cons x xs ih =>
    obtain ⟨y, ys, rfl, first, others⟩ := List.map_eq_cons_iff.1 same.symm
    rw [List.flatMap_cons, List.flatMap_cons, tags_append, tags_append, h x y first.symm,
      ih others.symm]

/-- What a reader misses makes no difference to what is taken from tags. -/
theorem filterMap_written {α : Type} {f : Event → Option α} (h : f (.text "") = none)
    (es : List Event) : (written es).filterMap f = es.filterMap f := by
  rw [written, List.filterMap_filter]
  refine List.filterMap_congr fun e _ => ?_
  by_cases empty : e = .text ""
  · simp [empty, h]
  · simp [empty]

theorem tags_written (es : List Event) : tags (written es) = tags es :=
  filterMap_written rfl es

end TorznabGateway.Xml
