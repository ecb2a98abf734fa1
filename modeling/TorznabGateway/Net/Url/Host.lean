import TorznabGateway.Encoding.Percent
import TorznabGateway.Net.Ip

/-!
# Hosts of URLs

The host part of a URL in its normal form. Web-like URLs have domain names in ASCII, or addresses; a
name that ends in a number is an address of version 4, whose parts may be decimal, octal or
hexadecimal and fewer than four. Other URLs have hosts that are kept as they are.

How a domain name is brought into ASCII is a parameter, as it takes the tables of internationalized
names.
-/
namespace TorznabGateway.Url

open Text Encoding

/-- A way to bring domain names into ASCII, by which some may be refused. -/
abbrev DomainToAscii := List Char → Option (List Char)

/-- Escape the bytes outside printable ASCII and the given characters. -/
def escapeSet (special : List Char) (cs : List Char) : List Char :=
  Percent.encodeBytes
    (fun b => 0x20 ≤ b.toNat && b.toNat ≤ 0x7E && !special.contains (.ofNat b.toNat))
    (Utf8.encodeChars cs)

/-- Characters that no host holds. -/
def isForbiddenInHost (c : Char) : Bool :=
  ['\x00', '\t', '\n', '\r', ' ', '#', '/', ':', '<', '>', '?', '@', '[', '\\', ']', '^',
    '|'].contains c

/-- Characters that no domain name holds. -/
def isForbiddenInDomain (c : Char) : Bool :=
  isForbiddenInHost c || c.toNat < 0x20 || c == '%' || c == '\x7f'

/-! ## Addresses of version 4 -/

/-- The value of digits of a base. -/
def readBase? (base : Nat) (ds : List Char) : Option Nat :=
  ds.foldlM (fun n d => match Hex.digitValue? d with
    | some v => if v < base then some (base * n + v) else none
    | none => none) 0

/-- A part of an address, in one of three bases. -/
def readPart? : List Char → Option Nat
  | [] => none
  | '0' :: 'x' :: ds => readBase? 16 ds
  | '0' :: 'X' :: ds => readBase? 16 ds
  | '0' :: d :: ds => readBase? 8 (d :: ds)
  | ds => readBase? 10 ds

/-- The parts between points; a point at the end does not count. -/
def addressParts (cs : List Char) : List (List Char) :=
  let parts := splitOn '.' cs
  if 1 < parts.length ∧ parts.getLast? = some [] then parts.dropLast else parts

/-- Whether the last part is a number. -/
def endsInNumber (cs : List Char) : Bool :=
  match (addressParts cs).getLast? with
  | some part =>
    (!part.isEmpty && part.all fun c => '0' ≤ c && c ≤ '9') || (readPart? part).isSome
  | none => false

/-- The address with the given parts, of which the last fills up what is left. -/
def address? (parts : List Nat) : Option (List Char) :=
  match parts.reverse with
  | [] => none
  | last :: before =>
    let before := before.reverse
    if 3 < before.length ∨ before.any (255 < ·) ∨ Nat.pow 256 (4 - before.length) ≤ last then none
    else
      let n := before.zipIdx.foldl (fun n (p, i) => n + p * Nat.pow 256 (3 - i)) last
      some (IpAddress.v4Chars (n / 16777216) (n / 65536 % 256) (n / 256 % 256) (n % 256))

/-! ## Hosts -/

/-- Names that need no tables: they are ASCII, hold no label in punycode, and come out in lower
case. All other names are refused. -/
def asciiDomain? : DomainToAscii := fun cs =>
  let name := cs.map Char.toLower
  let isPunycode (label : List Char) : Bool := "xn--".toList.isPrefixOf label
  if name.all (·.toNat < 0x80) && !(splitOn '.' name).any isPunycode then some name else none

/-- A host of a web-like URL that is no address of version 6. -/
def readDomain? (toAscii : DomainToAscii) (cs : List Char) : Option (List Char) := do
  let name ← toAscii (Utf8.decodeLossy (Percent.decodeBytes (Utf8.encodeChars cs))).toList
  if name.isEmpty || name.any isForbiddenInDomain then none
  else if endsInNumber name then ((addressParts name).mapM readPart?).bind address?
  else some name

/-- A host in its normal form. -/
def readHost? (toAscii : DomainToAscii) (isSpecial : Bool) (cs : List Char) :
    Option (List Char) :=
  match cs with
  | '[' :: rest =>
    match rest.reverse with
    | ']' :: inner =>
      match IpAddress.readV6 inner.reverse with
      | some (.v6 groups) => some ('[' :: IpAddress.v6Chars groups ++ [']'])
      | _ => none
    | _ => none
  | _ =>
    if isSpecial then readDomain? toAscii cs
    else if cs.any isForbiddenInHost then none else some (escapeSet [] cs)

end TorznabGateway.Url
