import TorznabGateway.Proofs.Net.Escaped

/-!
# Paths are read back

What is written with escapes is not escaped once more. In the path of a web-like URL that was read,
no segment stands for a directory any more, and escaping makes none: the escape of a point, which is
the only one that does, is never written. So the segments are read back.

## Main definitions

* `Url.KeepsEscapes`: sets of characters that are not in escapes.
* `Url.Settled`: segments that are read back.

## Main statements

* `Url.escapeSet_escapeSet`: escaping twice is escaping once.
* `Url.isDirectory_of_escapeSet`: escaping makes no segment that stands for a directory.
* `Url.readPath_settled`, `Url.readPath_chars`: the segments of a path are read back.
-/
namespace TorznabGateway.Url

open Text Encoding

/-! ## Escapes -/

/-- Whether no character of an escape is in a set of characters that are to be escaped. -/
def KeepsEscapes (special : List Char) : Prop :=
  '%' ∉ special ∧ ∀ n < 16, Hex.upperDigit n ∉ special

instance (special : List Char) : Decidable (KeepsEscapes special) :=
  inferInstanceAs (Decidable (_ ∧ _))

theorem printable_of_mem_escapeSet {special cs : List Char} {c : Char}
    (h : c ∈ escapeSet special cs) : 0x20 ≤ c.toNat ∧ c.toNat ≤ 0x7E := by
  have digits : ∀ n < 16, 0x20 ≤ (Hex.upperDigit n).toNat ∧ (Hex.upperDigit n).toNat ≤ 0x7E := by
    decide
  rcases mem_escapeSet h with ⟨-, low, high, -⟩ | rfl | ⟨n, digit, rfl⟩
  · exact ⟨low, high⟩
  · decide
  · exact digits n digit

/-- No character that is to be escaped is left. -/
theorem not_mem_escapeSet_of_mem {special : List Char} (h : KeepsEscapes special) {c : Char}
    (hc : c ∈ special) (cs : List Char) : c ∉ escapeSet special cs := by
  intro left
  rcases mem_escapeSet left with ⟨-, -, -, plain⟩ | rfl | ⟨n, digit, rfl⟩
  · exact plain hc
  · exact h.1 hc
  · exact h.2 n digit hc

/-- Escaping twice is escaping once. -/
theorem escapeSet_escapeSet {special : List Char} (h : KeepsEscapes special) (cs : List Char) :
    escapeSet special (escapeSet special cs) = escapeSet special cs :=
  escapeSet_of_kept fun c hc => by
    obtain ⟨low, high⟩ := printable_of_mem_escapeSet hc
    exact ⟨low, high, fun left => not_mem_escapeSet_of_mem h left cs hc⟩

/-- Whether a byte stands for itself where some characters are escaped. -/
def IsKept (special : List Char) (b : UInt8) : Prop :=
  0x20 ≤ b.toNat ∧ b.toNat ≤ 0x7E ∧ .ofNat b.toNat ∉ special

instance (special : List Char) (b : UInt8) : Decidable (IsKept special b) :=
  inferInstanceAs (Decidable (_ ∧ _))

theorem escape_infix_of_mem {special cs : List Char} {b : UInt8} (inside : b ∈ Utf8.encodeChars cs)
    (escaped : ¬IsKept special b) : Percent.escape b <:+: escapeSet special cs := by
  obtain ⟨before, behind, bytes⟩ := List.append_of_mem inside
  rw [escapeSet, bytes, Percent.encodeBytes, List.flatMap_append, List.flatMap_cons, if_neg]
  · exact ⟨_, _, List.append_assoc ..⟩
  · simpa [IsKept, and_assoc] using escaped

theorem encodeChar_ne_nil (c : Char) : Utf8.encodeChar c ≠ [] := by
  unfold Utf8.encodeChar
  dsimp only
  repeat' split
  all_goals simp

/-- A text that is changed by escaping has the escape of a byte that is not kept. -/
theorem exists_escape_infix {special cs : List Char} (changed : escapeSet special cs ≠ cs) :
    ∃ b, ¬IsKept special b ∧ Percent.escape b <:+: escapeSet special cs := by
  refine Classical.byContradiction fun none => changed (escapeSet_of_kept fun c hc => ?_)
  have kept (b : UInt8) (hb : b ∈ Utf8.encodeChar c) : IsKept special b :=
    Decidable.byContradiction fun escaped =>
      none ⟨b, escaped, escape_infix_of_mem (List.mem_flatMap.2 ⟨c, hc, hb⟩) escaped⟩
  by_cases ascii : c.toNat < 0x80
  · have byte := kept (.ofNat c.toNat) (by simp [Utf8.encodeChar_of_lt ascii])
    have back : (UInt8.ofNat c.toNat).toNat = c.toNat :=
      UInt8.toNat_ofNat_of_lt' (Nat.lt_trans ascii (by decide))
    simpa [IsKept, back] using byte
  · obtain ⟨b, hb⟩ := List.exists_mem_of_ne_nil _ (encodeChar_ne_nil c)
    have wide := Utf8.le_of_mem_encodeChar (Nat.not_lt.1 ascii) hb
    exact absurd (kept b hb).2.1 (by omega)

/-! ## Directories -/

/-- The segments in lower case that stand for a directory. -/
def directories : List String :=
  [".", "%2e", "..", ".%2e", "%2e.", "%2e%2e"]

/-- Whether a segment stands for a directory: the same one, or the one above. -/
def IsDirectory (s : List Char) : Prop :=
  String.ofList (s.map Char.toLower) ∈ directories

instance (s : List Char) : Decidable (IsDirectory s) :=
  inferInstanceAs (Decidable (_ ∈ _))

theorem isDirectory_iff {s : List Char} : IsDirectory s ↔ isDot s ∨ isDotDot s := by
  simp [IsDirectory, directories, isDot, isDotDot, or_assoc]

/-- Escaping makes no segment that stands for a directory. -/
theorem isDirectory_of_escapeSet {s : List Char} (h : IsDirectory (escapeSet pathSet s)) :
    IsDirectory s := by
  -- The only escape that is found in such a segment is that of a point, which is never escaped.
  have point : ∀ w ∈ directories, ∀ n < 256,
      (Percent.escape (.ofNat n)).map Char.toLower <:+: w.toList → n = 0x2E := by decide +kernel
  refine Decidable.byContradiction fun other => ?_
  have changed : escapeSet pathSet s ≠ s := fun same => other (same ▸ h)
  obtain ⟨b, escaped, inside⟩ := exists_escape_infix changed
  have inside := inside.map Char.toLower
  rw [← String.toList_ofList (l := (escapeSet pathSet s).map _)] at inside
  have code := point _ h b.toNat b.toNat_lt (by rwa [UInt8.ofNat_toNat])
  obtain rfl : b = 0x2E := UInt8.toNat_inj.1 code
  exact escaped (by decide)

/-! ## Segments -/

/-- Segments that are read back. -/
structure Settled (s : List Char) : Prop where
  escaped : escapeSet pathSet s = s
  name : ¬IsDirectory s
  slashes : '/' ∉ s ∧ '\\' ∉ s

theorem settled_nil : Settled [] :=
  ⟨rfl, by decide, by simp⟩

theorem addSegment_eq (before : List (List Char)) (s : List Char) :
    addSegment false before s = before ++ [escapeSet pathSet s] := by
  unfold addSegment
  split <;> rfl

theorem settled_escapeSet {s : List Char} (slashes : '/' ∉ s ∧ '\\' ∉ s) (name : ¬IsDirectory s) :
    Settled (escapeSet pathSet s) where
  escaped := escapeSet_escapeSet (by decide) s
  name := fun directory => name (isDirectory_of_escapeSet directory)
  slashes := by
    have digits : ∀ n < 16, '/' ≠ Hex.upperDigit n ∧ '\\' ≠ Hex.upperDigit n := by decide
    constructor <;> intro hc
    · rcases mem_escapeSet hc with ⟨given, -⟩ | percent | ⟨n, small, digit⟩
      · exact slashes.1 given
      · exact absurd percent (by decide)
      · exact (digits n small).1 digit
    · rcases mem_escapeSet hc with ⟨given, -⟩ | percent | ⟨n, small, digit⟩
      · exact slashes.2 given
      · exact absurd percent (by decide)
      · exact (digits n small).2 digit

/-- The segments that are left of a path are settled, and there is one at least. -/
theorem settled_resolveSegments {before segments : List (List Char)}
    (settled : ∀ s ∈ before, Settled s) (slashes : ∀ s ∈ segments, '/' ∉ s ∧ '\\' ∉ s) :
    ∀ s ∈ resolveSegments false before segments, Settled s := by
  have shortened {before : List (List Char)} (settled : ∀ s ∈ before, Settled s) :
      ∀ s ∈ shorten false before, Settled s := by
    unfold shorten
    split
    · simp
    · exact fun s hs => settled s (List.dropLast_subset _ hs)
  have closed {before : List (List Char)} (settled : ∀ s ∈ before, Settled s) :
      ∀ s ∈ before ++ [[]], Settled s :=
    List.forall_mem_append.2 ⟨settled, by simpa using settled_nil⟩
  have added {before : List (List Char)} {s : List Char} (settled : ∀ s ∈ before, Settled s)
      (slashes : '/' ∉ s ∧ '\\' ∉ s) (up : ¬isDotDot s) (here : ¬isDot s) :
      ∀ t ∈ addSegment false before s, Settled t := by
    rw [addSegment_eq, List.forall_mem_append, List.forall_mem_singleton]
    exact ⟨settled, settled_escapeSet slashes (by rw [isDirectory_iff]; exact not_or.2 ⟨here, up⟩)⟩
  fun_induction resolveSegments false before segments with
  | case1 before => exact settled
  | case2 before s up => exact closed (shortened settled)
  | case3 before s _ here => exact closed settled
  | case4 before s up here => exact added settled (slashes s (by simp)) up here
  | case5 before s t rest up ih =>
    exact ih (shortened settled) fun r hr => slashes r (List.mem_cons_of_mem s hr)
  | case6 before s t rest _ here ih =>
    exact ih settled fun r hr => slashes r (List.mem_cons_of_mem s hr)
  | case7 before s t rest up here ih =>
    exact ih (added settled (slashes s (by simp)) up here)
      fun r hr => slashes r (List.mem_cons_of_mem s hr)

theorem resolveSegments_ne_nil {before segments : List (List Char)} (h : segments ≠ []) :
    resolveSegments false before segments ≠ [] := by
  fun_induction resolveSegments false before segments with
  | case1 before => exact absurd rfl h
  | case2 | case3 => simp
  | case4 => simp [addSegment_eq]
  | case5 before s t rest up ih => exact ih (by simp)
  | case6 before s t rest _ here ih => exact ih (by simp)
  | case7 before s t rest up here ih => exact ih (by simp)

/-- Settled segments stay as they are. -/
theorem resolveSegments_of_settled {segments : List (List Char)} (h : ∀ s ∈ segments, Settled s)
    (before : List (List Char)) : resolveSegments false before segments = before ++ segments := by
  have plain (s : List Char) (hs : Settled s) : ¬isDotDot s ∧ ¬isDot s := by
    have := hs.name
    rw [isDirectory_iff, not_or] at this
    exact this.symm
  induction segments generalizing before with
  | nil => simp [resolveSegments]
  | cons s segments ih =>
    rw [List.forall_mem_cons] at h
    have name := plain s h.1
    cases segments with
    | nil => rw [resolveSegments, if_neg name.1, if_neg name.2, addSegment_eq, h.1.escaped]
    | cons t rest =>
      rw [resolveSegments, if_neg name.1, if_neg name.2, ih h.2, addSegment_eq, h.1.escaped,
        List.append_assoc, List.singleton_append]

/-! ## Paths -/

theorem chars_segments {segments : List (List Char)} (some_segment : segments ≠ []) :
    UrlPath.chars (.segments segments) = '/' :: joinWith ['/'] segments := by
  induction segments with
  | nil => exact absurd rfl some_segment
  | cons s segments ih =>
    rw [UrlPath.chars] at ih ⊢
    cases segments with
    | nil => simp [joinWith]
    | cons t rest => rw [List.flatMap_cons, ih (by simp)]; simp [joinWith]

/-- The path of a web-like URL has settled segments. -/
theorem readPath_settled (cs : List Char) :
    ∃ segments ≠ [], readPath true false cs = .segments segments
      ∧ ∀ s ∈ segments, Settled s := by
  let slashed := cs.map fun c => if isSlash true c then '/' else c
  have no_backslash : '\\' ∉ slashed := by
    intro hc
    obtain ⟨c, -, slash⟩ := List.mem_map.1 hc
    split at slash
    · exact absurd slash (by decide)
    · next other => exact other (slash ▸ by decide)
  have read : readPath true false cs = .segments [[]] ∨ ∃ rest, rest ⊆ slashed
      ∧ readPath true false cs = .segments (resolveSegments false [] (splitOn '/' rest)) := by
    rw [readPath]
    split
    · exact .inl rfl
    · next rest whole => exact .inr ⟨rest, by simp [slashed, whole], rfl⟩
    · exact .inr ⟨_, List.Subset.refl _, rfl⟩
  rcases read with empty | ⟨rest, inside, read⟩
  · exact ⟨[[]], by simp, empty, by simpa using settled_nil⟩
  · refine ⟨_, resolveSegments_ne_nil (splitOn_ne_nil '/' rest), read, ?_⟩
    refine settled_resolveSegments (by simp) fun s hs => ?_
    obtain ⟨within, slash⟩ := mem_of_mem_splitOn hs
    exact ⟨slash, fun hc => no_backslash (inside (within hc))⟩

/-- Settled segments are read back from the path that is written for them. -/
theorem readPath_chars {segments : List (List Char)} (some_segment : segments ≠ [])
    (h : ∀ s ∈ segments, Settled s) :
    readPath true false (UrlPath.chars (.segments segments)) = .segments segments := by
  have kept : (UrlPath.chars (.segments segments)).map (fun c => if isSlash true c then '/' else c)
      = UrlPath.chars (.segments segments) := by
    refine (List.map_congr_left fun c hc => ?_).trans (List.map_id' _)
    obtain ⟨s, hs, hc⟩ := List.mem_flatMap.1 hc
    have no_backslash : c ≠ '\\' := by
      rintro rfl
      rcases List.mem_cons.1 hc with slash | hc
      · exact absurd slash (by decide)
      · exact (h s hs).slashes.2 hc
    simp only [isSlash, Bool.true_and, Bool.or_eq_true, beq_iff_eq, no_backslash, or_false]
    split <;> simp_all
  rw [readPath, kept, chars_segments some_segment]
  simp only
  rw [splitOn_joinWith some_segment fun s hs => (h s hs).slashes.1, resolveSegments_of_settled h,
    List.nil_append]

end TorznabGateway.Url
