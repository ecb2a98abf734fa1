/-!
# Letter case in ASCII

Names of modes, formats, indexers and header fields are compared without regard to the case of the
letters `A` to `Z`; every other character is compared as it stands.
-/
namespace TorznabGateway.Text

/-- The text with `A` to `Z` lower-cased. -/
def asciiLower (s : String) : String :=
  .ofList (s.toList.map Char.toLower)

/-- Equality up to the case of ASCII letters. -/
def eqIgnoreAsciiCase (a b : String) : Bool :=
  a.toList.map Char.toLower == b.toList.map Char.toLower

@[simp] theorem toList_asciiLower (s : String) :
    (asciiLower s).toList = s.toList.map Char.toLower := by
  simp [asciiLower]

theorem eqIgnoreAsciiCase_iff (a b : String) :
    eqIgnoreAsciiCase a b = true ↔ a.toList.map Char.toLower = b.toList.map Char.toLower := by
  simp [eqIgnoreAsciiCase]

theorem eqIgnoreAsciiCase_refl (a : String) : eqIgnoreAsciiCase a a = true := by
  simp [eqIgnoreAsciiCase]

end TorznabGateway.Text
