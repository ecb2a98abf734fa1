import TorznabGateway.Encoding.Percent
import TorznabGateway.Text.Split

/-!
# Form coding

Name and value pairs in the query part of a URL, `application/x-www-form-urlencoded`: pairs are
joined by `&`, name and value by the first `=`, a blank is written `+`. Reading drops empty pieces
and takes a piece without `=` as a name with an empty value.
-/
namespace TorznabGateway.Encoding.Form

open Text

/-- Read `+` as a blank and resolve escapes. -/
def decodeComponent (bs : List UInt8) : String :=
  Utf8.decodeLossy (Percent.decodeBytes (bs.map fun b => if b == 0x2B then 0x20 else b))

/-- The pairs of a query. -/
def parse (query : List UInt8) : List (String × String) :=
  (splitOn 0x26 query).filterMap fun piece =>
    if piece.isEmpty then none
    else
      let (name, value) := splitFirst 0x3D piece
      some (decodeComponent name, decodeComponent value)

/-- Bytes that a component keeps: ASCII letters and digits, `*`, `-`, `.` and `_`. -/
def isKept (b : UInt8) : Bool :=
  let n := b.toNat
  (0x30 ≤ n && n ≤ 0x39) || (0x41 ≤ n && n ≤ 0x5A) || (0x61 ≤ n && n ≤ 0x7A)
    || n == 0x2A || n == 0x2D || n == 0x2E || n == 0x5F

/-- Write one name or value. -/
def encodeComponent (s : String) : List Char :=
  (Utf8.encode s).flatMap fun b =>
    if b == 0x20 then ['+'] else if isKept b then [.ofNat b.toNat] else Percent.escape b

/-- Write one pair. -/
def encodePair (pair : String × String) : List Char :=
  encodeComponent pair.1 ++ '=' :: encodeComponent pair.2

/-- Write pairs, joined by `&`. -/
def serialize (pairs : List (String × String)) : List Char :=
  joinWith ['&'] (pairs.map encodePair)

end TorznabGateway.Encoding.Form
