import TorznabGateway.Text.CaseTable

/-!
# Lower case

The full lower-case form of a text in Unicode. Two rules go beyond a table from characters to
characters: `İ` becomes two characters, and a capital sigma becomes `ς` at the end of a word and
`σ` elsewhere. A sigma ends a word when a letter with case stands before it and none behind it,
passing over marks and other characters without a place of their own.
-/
namespace TorznabGateway.Text

/-- Whether a code point lies in one of some ranges. -/
def inRanges (ranges : List (Nat × Nat)) (n : Nat) : Bool :=
  ranges.any fun (low, high) => low ≤ n && n ≤ high

/-- A character that has case and is not passed over. -/
def isCased (c : Char) : Bool :=
  inRanges CaseTable.casedRanges c.toNat

/-- A character that is passed over in looking for one with case. -/
def isCaseIgnorable (c : Char) : Bool :=
  inRanges CaseTable.ignorableRanges c.toNat

/-- The lower-case form of a character on its own. -/
def lowerChar (c : Char) : List Char :=
  let n := c.toNat
  if n < 0x80 then [c.toLower]
  else if n = 0x130 then ['i', '\u0307']
  else match CaseTable.lowerRuns.find? fun (low, high, step, _) =>
      low ≤ n && n ≤ high && (n - low) % step == 0 with
    | some (_, _, _, shift) => [.ofNat ((n : Int) + shift).toNat]
    | none => [c]

/-- Whether the first character that is not passed over has case. -/
def startsCased (cs : List Char) : Bool :=
  match cs.dropWhile isCaseIgnorable with
  | c :: _ => isCased c
  | [] => false

/-- Lower-case the rest of a text; `before` holds the characters in front of it, last one first. -/
def lowerFrom (before : List Char) : List Char → List Char
  | [] => []
  | c :: cs =>
    let lowered :=
      if c = '\u03A3' then
        if startsCased before && !startsCased cs then ['\u03C2'] else ['\u03C3']
      else lowerChar c
    lowered ++ lowerFrom (c :: before) cs

/-- The lower-case form of a text. -/
def lowercase (s : String) : String :=
  .ofList (lowerFrom [] s.toList)

end TorznabGateway.Text
