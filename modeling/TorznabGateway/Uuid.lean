import TorznabGateway.Digest.Sha1
import TorznabGateway.Text.Hex
import TorznabGateway.Text.Utf8

/-!
# UUIDs

Identifiers of sixteen bytes. They are written in lower case with hyphens and read in four forms:
with hyphens, without, in braces, and as a URN whose scheme is in any letter case. An identifier
can be derived from a name within a namespace (version 5), so that equal names get equal
identifiers.
-/
namespace TorznabGateway

open Text

/-- An identifier by its bytes. -/
structure Uuid where
  bytes : List UInt8
  deriving DecidableEq, Repr, Inhabited

namespace Uuid

/-- Groups of 8, 4, 4, 4 and 12 digits. -/
def chars (u : Uuid) : List Char :=
  let h := Hex.encodeChars u.bytes
  h.take 8 ++ '-' :: (h.drop 8).take 4 ++ '-' :: (h.drop 12).take 4
    ++ '-' :: (h.drop 16).take 4 ++ '-' :: h.drop 20

/-- The written form. -/
def render (u : Uuid) : String :=
  .ofList u.chars

/-- Thirty-two digits. -/
def ofDigits? (cs : List Char) : Option Uuid :=
  if cs.length = 32 then (Hex.decode? cs).map Uuid.mk else none

/-- Thirty-two digits, or groups of them with hyphens between. -/
def ofPlain? (cs : List Char) : Option Uuid :=
  if cs.length = 36 ∧ cs[8]? = some '-' ∧ cs[13]? = some '-' ∧ cs[18]? = some '-'
      ∧ cs[23]? = some '-' then
    ofDigits? (cs.take 8 ++ (cs.drop 9).take 4 ++ (cs.drop 14).take 4 ++ (cs.drop 19).take 4
      ++ cs.drop 24)
  else ofDigits? cs

/-- What stands in front of the hyphenated form in a URN. -/
def urnScheme : List Char :=
  "urn:uuid:".toList

/-- Whether the hyphenated form is written. -/
def isHyphenated (cs : List Char) : Bool :=
  cs.length == 36

/-- Read one of the four forms. -/
def parse? (s : String) : Option Uuid :=
  let cs := s.toList
  match cs with
  | '\x7b' :: rest =>
    match rest.reverse with
    | '\x7d' :: inner =>
      let inner := inner.reverse
      if isHyphenated inner then ofPlain? inner else none
    | _ => none
  | _ =>
    if (cs.take urnScheme.length).map Char.toLower = urnScheme then
      let rest := cs.drop urnScheme.length
      if isHyphenated rest then ofPlain? rest else none
    else ofPlain? cs

/-- The namespace of URLs. -/
def urlNamespace : Uuid :=
  ⟨[0x6b, 0xa7, 0xb8, 0x11, 0x9d, 0xad, 0x11, 0xd1, 0x80, 0xb4, 0x00, 0xc0, 0x4f, 0xd4, 0x30,
    0xc8]⟩

/-- The identifier of a name: sixteen bytes of a hash, with the version and the variant set. -/
def ofName (space : Uuid) (name : String) : Uuid :=
  let hash := (Digest.Sha1.digest (space.bytes ++ Utf8.encode name)).take 16
  ⟨hash.zipIdx.map fun (b, i) =>
    if i = 6 then (b &&& 0x0F) ||| 0x50 else if i = 8 then (b &&& 0x3F) ||| 0x80 else b⟩

end Uuid

end TorznabGateway
