import TorznabGateway.Encoding.Percent

/-!
# Names of downloads

The header that names a downloaded file. The name in quotes is ASCII, with `_` for everything else
and for quotes and backslashes. A name that is changed by this is also given in full,
percent-encoded.
-/
namespace TorznabGateway.Disposition

open Encoding

/-- A character that may stand in the name in quotes. -/
def isQuotable (c : Char) : Bool :=
  0x20 ≤ c.toNat && c.toNat ≤ 0x7E && c != '"' && c != '\\'

/-- The name with `_` for the characters that may not stand in quotes. -/
def fallback (filename : String) : String :=
  .ofList (filename.toList.map fun c => if isQuotable c then c else '_')

/-- The value of the header. -/
def value (filename : String) : String :=
  let quoted := "attachment; filename=\"" ++ fallback filename ++ "\""
  if fallback filename = filename then quoted
  else quoted ++ "; filename*=UTF-8''" ++ Percent.encode filename

end TorznabGateway.Disposition
