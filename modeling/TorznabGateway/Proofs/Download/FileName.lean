import Mathlib.Data.Bool.AllAny
import TorznabGateway.Gateway
import TorznabGateway.Text.Scan
import TorznabGateway.Text.Utf8.RoundTrip

/-!
# Names of downloads are read back

The header that names a downloaded file holds printable ASCII only. A client that reads it as a kind
with parameters, whose values are tokens or quoted strings, finds a name of as many characters as
that of the file and, unless this is the name itself, also the name itself percent-encoded.

## Main definitions

* `Disposition.readQuoted`, `Disposition.readParameters`, `Disposition.read?`: the reading of the
  header.
* `Disposition.readExtended?`: the reading of an encoded value.

## Main statements

* `Disposition.read?_value`: what is read of the header.
* `Disposition.value_names`: the header is set whatever the name is, and the name is read from it.
-/
namespace TorznabGateway

open Text Encoding

namespace Disposition

/-! ## Reading the header -/

/-- Characters of names, and of values that are not quoted. -/
def isTokenChar (c : Char) : Bool :=
  c.isAlphanum || "!#$%&'*+-.^_`|~".toList.contains c

/-- The text of a quoted string behind its opening quote. A backslash is passed over, and the
character behind it belongs to the text whatever it is. -/
def readQuoted : Scan (List Char)
  | [] => none
  | '"' :: rest => some ([], rest)
  | '\\' :: c :: rest => (readQuoted rest).map fun (text, rest) => (c :: text, rest)
  | c :: rest => (readQuoted rest).map fun (text, rest) => (c :: text, rest)

/-- A name and its value. -/
def readParameter : Scan (String × String) := fun cs => do
  let (name, rest) ← Scan.run isTokenChar cs
  let (_, rest) ← Scan.char '=' rest
  let (value, rest) ← match rest with
    | '"' :: rest => readQuoted rest
    | _ => Scan.run isTokenChar rest
  return ((.ofList name, .ofList value), rest)

/-- Parameters to the end, each behind a semicolon. -/
def readParameters (cs : List Char) : Option (List (String × String)) :=
  match cs with
  | [] => some []
  | ';' :: behind =>
    match readParameter (behind.dropWhile isBlank) with
    | some (p, rest) =>
      if rest.length < behind.length then (readParameters rest).map (p :: ·) else none
    | none => none
  | _ => none
termination_by cs.length
decreasing_by simp; omega

/-- The kind of the header and its parameters. -/
def read? (value : String) : Option (String × List (String × String)) := do
  let (kind, rest) ← Scan.run isTokenChar value.toList
  let parameters ← readParameters rest
  return (.ofList kind, parameters)

/-- The text of a value that is given as a character set, a language and percent-encoded bytes with
apostrophes between. -/
def readExtended? (value : String) : Option String :=
  let (charset, rest) := splitFirst '\x27' value.toList
  let (_, encoded) := splitFirst '\x27' rest
  if eqIgnoreAsciiCase (.ofList charset) "UTF-8" then
    Utf8.decode? (Percent.decode (.ofList encoded))
  else none

/-! ## What is written -/

theorem isQuotable_iff {c : Char} :
    isQuotable c ↔ (0x20 ≤ c.toNat ∧ c.toNat ≤ 0x7E) ∧ c ≠ '"' ∧ c ≠ '\\' := by
  simp [isQuotable, and_assoc]

theorem isQuotable_of_mem_fallback {filename : String} {c : Char}
    (h : c ∈ (fallback filename).toList) : isQuotable c := by
  rw [fallback, String.toList_ofList] at h
  obtain ⟨d, -, rfl⟩ := List.mem_map.1 h
  split
  · assumption
  · decide

theorem length_fallback (filename : String) : (fallback filename).length = filename.length := by
  simp [fallback, ← String.length_toList]

theorem fallback_eq_self_iff {filename : String} :
    fallback filename = filename ↔ ∀ c ∈ filename.toList, isQuotable c := by
  have same (c : Char) : (if isQuotable c then c else '_') = id c ↔ isQuotable c := by
    split
    · next h => simp [h]
    · next h =>
      have other : c ≠ '_' := by
        rintro rfl
        exact h (by decide)
      simp [h, other.symm]
  rw [fallback, ← String.toList_inj, String.toList_ofList, ← List.map_id filename.toList,
    List.map_map, List.map_inj_left]
  simp only [List.map_id, Function.comp_id, same]

theorem mem_encode {s : String} {c : Char} (h : c ∈ (Percent.encode s).toList) :
    isTokenChar c ∧ 0x20 ≤ c.toNat ∧ c.toNat ≤ 0x7E := by
  have digit : ∀ n < 16, isTokenChar (Hex.upperDigit n) ∧ 0x20 ≤ (Hex.upperDigit n).toNat
      ∧ (Hex.upperDigit n).toNat ≤ 0x7E := by decide
  have kept (b : UInt8) : Percent.isUnreserved b → isTokenChar (.ofNat b.toNat)
      ∧ 0x20 ≤ (Char.ofNat b.toNat).toNat ∧ (Char.ofNat b.toNat).toNat ≤ 0x7E := by
    revert b
    exact Percent.forall_byte (by decide +kernel)
  rw [Percent.encode, String.toList_ofList, Percent.encodeBytes] at h
  obtain ⟨b, -, hc⟩ := List.mem_flatMap.1 h
  split at hc
  · next unreserved =>
    obtain rfl := List.mem_singleton.1 hc
    exact kept b unreserved
  · rcases Percent.mem_escape hc with rfl | ⟨n, small, rfl⟩
    · decide
    · exact digit n small

/-- What stands behind the quoted name. -/
def extension (filename : String) : String :=
  if fallback filename = filename then "" else "; filename*=UTF-8''" ++ Percent.encode filename

theorem value_eq (filename : String) :
    value filename
      = "attachment; filename=\"" ++ fallback filename ++ "\"" ++ extension filename := by
  rw [value, extension]
  split
  · rw [String.append_empty]
  · rw [String.append_assoc]

theorem printable_of_mem_value {filename : String} {c : Char} (h : c ∈ (value filename).toList) :
    0x20 ≤ c.toNat ∧ c.toNat ≤ 0x7E := by
  have front : ∀ c ∈ "attachment; filename=\"".toList, 0x20 ≤ c.toNat ∧ c.toNat ≤ 0x7E :=
    List.all_iff_forall_prop.1 (by decide)
  have marks : ∀ c ∈ "; filename*=UTF-8''".toList, 0x20 ≤ c.toNat ∧ c.toNat ≤ 0x7E :=
    List.all_iff_forall_prop.1 (by decide)
  rw [value_eq, String.toList_append, String.toList_append, String.toList_append, List.mem_append,
    List.mem_append, List.mem_append] at h
  rcases h with ((h | h) | h) | h
  · exact front c h
  · exact (isQuotable_iff.1 (isQuotable_of_mem_fallback h)).1
  · obtain rfl : c = '"' := by simpa using h
    decide
  · rw [extension] at h
    split at h
    · simp at h
    · rw [String.toList_append, List.mem_append] at h
      rcases h with h | h
      · exact marks c h
      · exact (mem_encode h).2

/-! ## What is read -/

theorem readQuoted_append {cs : List Char} (plain : ∀ c ∈ cs, c ≠ '"' ∧ c ≠ '\\')
    (rest : List Char) : readQuoted (cs ++ '"' :: rest) = some (cs, rest) := by
  induction cs with
  | nil => rfl
  | cons c cs ih =>
    rw [List.forall_mem_cons] at plain
    rw [List.cons_append, readQuoted.eq_4 _ _ plain.1.1 (by simp [plain.1.2]), ih plain.2]
    rfl

section

variable {name : List Char} (some_char : name ≠ []) (token : ∀ c ∈ name, isTokenChar c)
include some_char token

theorem readParameter_quoted {text : List Char} (plain : ∀ c ∈ text, c ≠ '"' ∧ c ≠ '\\')
    (rest : List Char) : readParameter (name ++ '=' :: '"' :: (text ++ '"' :: rest))
      = some ((.ofList name, .ofList text), rest) := by
  have ends : ∀ c ∈ ('=' :: '"' :: (text ++ '"' :: rest)).head?, isTokenChar c = false := by
    rintro c ⟨⟩
    decide
  rw [readParameter, Scan.run_append some_char token ends]
  simp only [Scan.char, Option.bind_eq_bind, Option.bind_some, if_true,
    readQuoted_append plain rest]
  rfl

theorem readParameter_token {value : List Char} (some_value : value ≠ [])
    (token_value : ∀ c ∈ value, isTokenChar c) :
    readParameter (name ++ '=' :: value) = some ((.ofList name, .ofList value), []) := by
  have ends : ∀ c ∈ ('=' :: value).head?, isTokenChar c = false := by
    rintro c ⟨⟩
    decide
  have whole : Scan.run isTokenChar value = some (value, []) := by
    have nothing : ∀ c ∈ ([] : List Char).head?, isTokenChar c = false := by simp
    simpa using Scan.run_append some_value token_value nothing
  rw [readParameter, Scan.run_append some_char token ends]
  simp only [Scan.char, Option.bind_eq_bind, Option.bind_some, if_true]
  split
  · next rest =>
    exact absurd (token_value '"' List.mem_cons_self) (by decide)
  · rw [whole]
    rfl

/-- A parameter behind a semicolon and a blank is read before the others. -/
theorem readParameters_cons {behind rest : List Char} {p : String × String}
    (read : readParameter (name ++ behind) = some (p, rest))
    (shorter : rest.length ≤ (name ++ behind).length) :
    readParameters (';' :: ' ' :: (name ++ behind)) = (readParameters rest).map (p :: ·) := by
  obtain ⟨c, cs, rfl⟩ := List.exists_cons_of_ne_nil some_char
  have first := token c List.mem_cons_self
  have not_blank : ¬isBlank c := by
    intro blank
    have known : c = ' ' ∨ c = '\t' := by simpa [isBlank] using blank
    rcases known with rfl | rfl <;> exact absurd first (by decide)
  have skipped : (' ' :: (c :: cs ++ behind)).dropWhile isBlank = c :: cs ++ behind := by
    rw [List.dropWhile_cons_of_pos (by decide), List.cons_append,
      List.dropWhile_cons_of_neg not_blank]
  rw [readParameters, skipped, read]
  simp only
  rw [if_pos (by simpa using Nat.lt_succ_of_le shorter)]

end

theorem readExtended?_encode (filename : String) :
    readExtended? ("UTF-8''" ++ Percent.encode filename) = some filename := by
  have marked : "UTF-8''".toList = "UTF-8".toList ++ ['\x27', '\x27'] := by decide
  have split_charset : splitFirst '\x27' ("UTF-8''" ++ Percent.encode filename).toList
      = ("UTF-8".toList, '\x27' :: (Percent.encode filename).toList) := by
    rw [String.toList_append, marked, List.append_assoc, List.cons_append, List.singleton_append,
      splitFirst_append_cons _ (by decide)]
  have split_language : splitFirst '\x27' ('\x27' :: (Percent.encode filename).toList)
      = ([], (Percent.encode filename).toList) := rfl
  rw [readExtended?, split_charset]
  simp only [split_language]
  rw [if_pos (by decide), String.ofList_toList, Percent.decode_encode, Utf8.decode?_encode]

/-- The parameters behind the quoted name. -/
def extensions (filename : String) : List (String × String) :=
  if fallback filename = filename then []
  else [("filename*", "UTF-8''" ++ Percent.encode filename)]

theorem readParameters_extension (filename : String) :
    readParameters (extension filename).toList = some (extensions filename) := by
  rw [extension, extensions]
  split
  · rw [String.toList_empty, readParameters]
  · have charset : ∀ c ∈ "UTF-8''".toList, isTokenChar c := List.all_eq_true.1 (by decide)
    have token : ∀ c ∈ "UTF-8''".toList ++ (Percent.encode filename).toList, isTokenChar c :=
      List.forall_mem_append.2 ⟨charset, fun c hc => (mem_encode hc).1⟩
    have some_char : "filename*".toList ≠ [] := by decide
    have name : ∀ c ∈ "filename*".toList, isTokenChar c := List.all_eq_true.1 (by decide)
    have read := readParameter_token some_char name (by simp) token
    have written : ("; filename*=UTF-8''" ++ Percent.encode filename).toList
        = ';' :: ' ' :: ("filename*".toList
          ++ '=' :: ("UTF-8''".toList ++ (Percent.encode filename).toList)) := by
      have marks : "; filename*=UTF-8''".toList
          = ';' :: ' ' :: ("filename*".toList ++ '=' :: "UTF-8''".toList) := by decide
      rw [String.toList_append, marks, List.cons_append, List.cons_append, List.append_assoc,
        List.cons_append]
    rw [written, readParameters_cons some_char name read (Nat.zero_le _), readParameters]
    simp only [Option.map_some, ← String.toList_append, String.ofList_toList]

/-- The header is read as the quoted name and what stands behind it. -/
theorem read?_value (filename : String) : read? (value filename)
    = some ("attachment", ("filename", fallback filename) :: extensions filename) := by
  have plain : ∀ c ∈ (fallback filename).toList, c ≠ '"' ∧ c ≠ '\\' := fun c hc =>
    (isQuotable_iff.1 (isQuotable_of_mem_fallback hc)).2
  have some_char : "filename".toList ≠ [] := by decide
  have name : ∀ c ∈ "filename".toList, isTokenChar c := List.all_eq_true.1 (by decide)
  have read := readParameter_quoted some_char name plain (extension filename).toList
  have written : (value filename).toList = "attachment".toList ++ ';' :: ' ' ::
      ("filename".toList ++ '=' :: '"' :: ((fallback filename).toList
        ++ '"' :: (extension filename).toList)) := by
    have front : "attachment; filename=\"".toList
        = "attachment".toList ++ ';' :: ' ' :: ("filename".toList ++ ['=', '"']) := by decide
    have quote : "\"".toList = ['"'] := rfl
    rw [value_eq]
    simp only [String.toList_append, front, quote, List.append_assoc, List.cons_append,
      List.nil_append]
  have ends : ∀ c ∈ (';' :: ' ' :: ("filename".toList ++ '=' :: '"' ::
      ((fallback filename).toList ++ '"' :: (extension filename).toList))).head?,
      isTokenChar c = false := by
    rintro c ⟨⟩
    decide
  have shorter : (extension filename).toList.length ≤ ("filename".toList ++ '=' :: '"' ::
      ((fallback filename).toList ++ '"' :: (extension filename).toList)).length := by
    simp only [List.length_append, List.length_cons]
    omega
  have kind : ∀ c ∈ "attachment".toList, isTokenChar c := List.all_eq_true.1 (by decide)
  have parameters := readParameters_cons some_char name read shorter
  rw [readParameters_extension, Option.map_some, String.ofList_toList,
    String.ofList_toList] at parameters
  rw [read?, written, Scan.run_append (by decide) kind ends, Option.bind_eq_bind, Option.bind_some]
  dsimp only
  rw [parameters, Option.bind_eq_bind, Option.bind_some, String.ofList_toList]
  rfl

/-- Printable characters can stand in a header, so it is not left out. -/
theorem disposition?_eq (filename : String) :
    Gateway.disposition? filename = some ("content-disposition", value filename) := by
  have text : (value filename).toList.all Gateway.isHeaderText := by
    rw [List.all_eq_true]
    intro c hc
    have := printable_of_mem_value hc
    simp [Gateway.isHeaderText, this.1, this.2]
  rw [Gateway.disposition?]
  exact if_pos text

/-- Whatever the name of a file is, the header that names it consists of printable ASCII and stands
in the answer. Its quoted name has neither quotes nor backslashes and as many characters as the name
of the file. It is this name if no other parameter follows, which is so for names that can stand in
quotes; otherwise the name is read from the second parameter. -/
theorem value_names (filename : String) :
    (∀ c ∈ (value filename).toList, 0x20 ≤ c.toNat ∧ c.toNat ≤ 0x7E)
    ∧ (∀ d, ("content-disposition", value filename) ∈ (Gateway.ofDownload filename d).headers)
    ∧ ∃ quoted parameters,
      ("attachment; filename=\"" ++ quoted ++ "\"").toList <+: (value filename).toList
      ∧ read? (value filename) = some ("attachment", ("filename", quoted) :: parameters)
      ∧ (∀ c ∈ quoted.toList, c ≠ '"' ∧ c ≠ '\\')
      ∧ quoted.length = filename.length
      ∧ (parameters = [] ↔ ∀ c ∈ filename.toList, isQuotable c)
      ∧ (parameters = [] ∧ quoted = filename
        ∨ ∃ extended, parameters = [("filename*", extended)]
          ∧ readExtended? extended = some filename) := by
  refine ⟨fun c => printable_of_mem_value, fun d => ?_, fallback filename, extensions filename,
    ?_, read?_value filename, ?_, length_fallback filename, ?_, ?_⟩
  · simp [Gateway.ofDownload, disposition?_eq]
  · exact ⟨(extension filename).toList, by rw [value_eq, ← String.toList_append]⟩
  · exact fun c hc => (isQuotable_iff.1 (isQuotable_of_mem_fallback hc)).2
  · rw [← fallback_eq_self_iff, extensions]
    split <;> simp_all
  · rw [extensions]
    split
    · next same => exact .inl ⟨rfl, same⟩
    · exact .inr ⟨_, rfl, readExtended?_encode filename⟩

end Disposition

end TorznabGateway
