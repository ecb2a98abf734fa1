import TorznabGateway.Text.Scan

/-!
# White space

The Unicode property `White_Space`, and cutting it off the ends of a text. The characters of the
property are few and fixed, so they are listed; `Char.isWhitespace` of the core library knows only
the blank, tab, carriage return and line feed among them.
-/
namespace TorznabGateway.Text

/-- Characters with the Unicode property `White_Space`. -/
def isWhiteSpace (c : Char) : Bool :=
  let n := c.toNat
  (0x09 ≤ n && n ≤ 0x0D) || n == 0x20 || n == 0x85 || n == 0xA0 || n == 0x1680
    || (0x2000 ≤ n && n ≤ 0x200A) || n == 0x2028 || n == 0x2029 || n == 0x202F
    || n == 0x205F || n == 0x3000

/-- Blanks within a line. -/
def isBlank (c : Char) : Bool :=
  c == ' ' || c == '\t'

/-- The white space of ASCII on which most formats agree; the vertical tab is not in it. -/
def isAsciiSpace (c : Char) : Bool :=
  isBlank c || c == '\n' || c == '\r' || c == '\x0c'

/-- Leave out the longest run of characters satisfying `p` at the end. -/
def dropEndWhile (p : Char → Bool) (s : List Char) : List Char :=
  (s.reverse.dropWhile p).reverse

/-- A text without the white space at its start. -/
def trimStart (s : List Char) : List Char :=
  s.dropWhile isWhiteSpace

/-- A text without the white space at its start and end. -/
def trimChars (s : List Char) : List Char :=
  dropEndWhile isWhiteSpace (trimStart s)

/-- A text without the white space at its start and end. -/
def trim (s : String) : String :=
  .ofList (trimChars s.toList)

/-- A text without the copies of `c` that end it. -/
def trimEndOf (c : Char) (s : String) : String :=
  .ofList (dropEndWhile (· == c) s.toList)

/-- The trimmed text, unless nothing is left of it. -/
def nonBlank? (s : String) : Option String :=
  let t := trim s
  if t.isEmpty then none else some t

theorem isWhiteSpace_of_isWhitespace (c : Char) (h : c.isWhitespace = true) :
    isWhiteSpace c = true := by
  simp only [Char.isWhitespace, Bool.or_eq_true, decide_eq_true_eq] at h
  rcases h with ((rfl | rfl) | rfl) | rfl <;> decide

theorem dropEndWhile_of_getLast? {p : Char → Bool} {cs : List Char}
    (h : ∀ c ∈ cs.getLast?, p c = false) : dropEndWhile p cs = cs := by
  rw [← List.head?_reverse] at h
  rw [dropEndWhile, dropWhile_of_head? h, List.reverse_reverse]

theorem trimEndOf_of_getLast? {c : Char} {s : String} (h : s.toList.getLast? ≠ some c) :
    trimEndOf c s = s := by
  have other : ∀ d ∈ s.toList.getLast?, (d == c) = false := by
    rintro d last
    rw [beq_eq_false_iff_ne]
    rintro rfl
    exact h last
  rw [trimEndOf, dropEndWhile_of_getLast? other, String.ofList_toList]

end TorznabGateway.Text
