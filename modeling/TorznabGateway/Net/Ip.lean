import TorznabGateway.Text.Decimal
import TorznabGateway.Text.Hex
import TorznabGateway.Text.Split

/-!
# IP addresses

Addresses of version 4 as four decimal octets without leading zeros, and of version 6 as up to
eight groups of hexadecimal digits, where `::` stands for a run of zero groups and the last two
groups may be written as an address of version 4. Version 6 is written in its shortest form: the
first of the longest runs of zeros is left out if it has two groups or more, and an address mapped
from version 4 shows that address.
-/
namespace TorznabGateway

open Text

/-- An address, as four octets or as eight groups of 16 bits. -/
inductive IpAddress where
  | v4 (a b c d : Nat)
  | v6 (groups : List Nat)
  deriving DecidableEq, Repr

namespace IpAddress

/-- The address at which a server listens on all interfaces. -/
def any : IpAddress := .v4 0 0 0 0

/-- Whether the address names no host. -/
def isUnspecified : IpAddress → Bool
  | .v4 a b c d => a == 0 && b == 0 && c == 0 && d == 0
  | .v6 groups => groups.all (· == 0)

/-! ## Writing -/

/-- Four octets with points between. -/
def v4Chars (a b c d : Nat) : List Char :=
  joinWith ['.'] ([a, b, c, d].map Decimal.digits)

/-- The hexadecimal digits of a number below 65536, without leading zeros. -/
def groupChars (n : Nat) : List Char :=
  let ds := [n / 4096 % 16, n / 256 % 16, n / 16 % 16]
  (ds.dropWhile (· == 0) ++ [n % 16]).map Hex.digit

/-- Groups with colons between. -/
def groupsChars (groups : List Nat) : List Char :=
  joinWith [':'] (groups.map groupChars)

/-- The length of the run of zeros in front. -/
def zeroRun : List Nat → Nat
  | [] => 0
  | g :: gs => if g = 0 then zeroRun gs + 1 else 0

/-- The first of the longest runs of zeros from the position `start` on: its start and length. -/
def longestRun (start : Nat) : List Nat → Nat × Nat
  | [] => (start, 0)
  | g :: gs =>
    let here := zeroRun (g :: gs)
    let (later, length) := longestRun (start + 1) gs
    if length ≤ here then (start, here) else (later, length)

/-- Eight groups with the longest run of zeros left out. -/
def v6Chars (groups : List Nat) : List Char :=
  let (start, length) := longestRun 0 groups
  if 2 ≤ length then
    groupsChars (groups.take start) ++ [':', ':'] ++ groupsChars (groups.drop (start + length))
  else groupsChars groups

/-- The written form. -/
def chars : IpAddress → List Char
  | .v4 a b c d => v4Chars a b c d
  | .v6 [0, 0, 0, 0, 0, 0xFFFF, g, h] =>
    "::ffff:".toList ++ v4Chars (g / 256) (g % 256) (h / 256) (h % 256)
  | .v6 groups => v6Chars groups

/-- The written form. -/
def render (a : IpAddress) : String :=
  .ofList a.chars

/-! ## Reading -/

/-- An octet: one to three decimal digits without a leading zero. -/
def readOctet (cs : List Char) : Option (Nat × List Char) :=
  let isDigit := fun c => (Decimal.digitValue? c).isSome
  let ds := cs.takeWhile isDigit
  let leadingZero := ds.head? == some '0' && 1 < ds.length
  if ds.isEmpty || 3 < ds.length || leadingZero then none
  else match Decimal.readNat? ds with
    | some n => if n ≤ 255 then some (n, cs.dropWhile isDigit) else none
    | none => none

/-- Four octets and what follows them. -/
def readV4 (cs : List Char) : Option (Nat × Nat × Nat × Nat × List Char) := do
  let point : List Char → Option (List Char) := fun
    | '.' :: rest => some rest
    | _ => none
  let (a, cs) ← readOctet cs
  let (b, cs) ← readOctet (← point cs)
  let (c, cs) ← readOctet (← point cs)
  let (d, cs) ← readOctet (← point cs)
  return (a, b, c, d, cs)

/-- A group: one to four hexadecimal digits. -/
def readGroup (cs : List Char) : Option (Nat × List Char) :=
  let isDigit := fun c => (Hex.digitValue? c).isSome
  let ds := cs.takeWhile isDigit
  if ds.isEmpty || 4 < ds.length then none
  else (Hex.readDigits? 0 ds).map fun n => (n, cs.dropWhile isDigit)

/-- The text behind the colon that every group but the first has in front. -/
def behindColon (first : Bool) (cs : List Char) : Option (List Char) :=
  if first then some cs
  else match cs with
    | ':' :: rest => some rest
    | _ => none

/-- Up to `limit` groups, whether they end in an address of version 4, and what follows them. -/
def readGroups (first : Bool) : Nat → List Char → List Nat × Bool × List Char
  | 0, cs => ([], false, cs)
  | limit + 1, cs =>
    let embedded := if limit = 0 then none else (behindColon first cs).bind readV4
    match embedded with
    | some (a, b, c, d, rest) => ([256 * a + b, 256 * c + d], true, rest)
    | none =>
      match (behindColon first cs).bind readGroup with
      | none => ([], false, cs)
      | some (g, rest) =>
        let (gs, endsInV4, rest) := readGroups false limit rest
        (g :: gs, endsInV4, rest)

/-- Eight groups, some of which may be left out, and nothing behind them. -/
def readV6 (cs : List Char) : Option IpAddress :=
  let (front, endsInV4, rest) := readGroups true 8 cs
  if front.length = 8 then (if rest.isEmpty then some (.v6 front) else none)
  else if endsInV4 then none
  else match rest with
    | ':' :: ':' :: rest =>
      let (back, _, rest) := readGroups true (7 - front.length) rest
      if rest.isEmpty then
        some (.v6 (front ++ List.replicate (8 - front.length - back.length) 0 ++ back))
      else none
    | _ => none

/-- Read an address. -/
def parse? (s : String) : Option IpAddress :=
  match readV4 s.toList with
  | some (a, b, c, d, rest) => if rest.isEmpty then some (.v4 a b c d) else none
  | none => readV6 s.toList

end IpAddress

end TorznabGateway
