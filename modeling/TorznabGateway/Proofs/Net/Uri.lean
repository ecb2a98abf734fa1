import Mathlib.Data.List.TakeWhile
import TorznabGateway.Net.Ip
import TorznabGateway.Text.Scan

/-!
# The authority of a URI

RFC 3986 puts an authority behind the scheme of a URI and two slashes: user information in front of
an at sign, a host, and a port behind the colon that follows the host. An address of version 6, in
which colons stand, is a host in brackets only. Every other host ends at the first colon.

## Main definitions

* `Uri.readAuthority?`, `Uri.read?`: the reading of an authority, and of a URI that has one.

## Main statements

* `Uri.readAuthority?_of_name`: a host without colons and a port are read back.
* `Uri.readAuthority?_of_colon`: nothing is read of a host with colons that is not in brackets.
* `Uri.read?_http`: the authority of a URI is read, whatever path is behind it.
-/
namespace TorznabGateway

open Text

/-- A host: an address, or any other name. -/
inductive Uri.Host where
  | address (a : IpAddress)
  | name (cs : List Char)
  deriving DecidableEq, Repr

/-- Where the resource of a URI is to be found. -/
structure Uri.Authority where
  userInfo : Option (List Char) := none
  host : Uri.Host
  /-- The port, unless it is left out. -/
  port : Option Nat
  deriving DecidableEq, Repr

/-- A URI with an authority. -/
structure Uri where
  scheme : List Char
  authority : Uri.Authority
  /-- The path, the query and the fragment, as they are written. -/
  rest : List Char
  deriving DecidableEq, Repr

namespace Uri

/-! ## Reading -/

/-- Characters that stand for themselves in a name: those without a reserved meaning, and the
delimiters that subdivide a component. -/
def isNameChar (c : Char) : Bool :=
  c.isAlphanum || "-._~!$&'()*+,;=".toList.contains c

/-- Whether a text is made of characters of a kind and of escapes. -/
def isSpelled (p : Char → Bool) : List Char → Bool
  | [] => true
  | '%' :: h :: l :: cs =>
    (Hex.digitValue? h).isSome && (Hex.digitValue? l).isSome && isSpelled p cs
  | c :: cs => p c && isSpelled p cs

/-- A host that is not in brackets. What can be read as an address of version 4 is one. -/
def readName? (cs : List Char) : Option Host :=
  match IpAddress.readV4 cs with
  | some (a, b, c, d, []) => some (.address (.v4 a b c d))
  | _ => if isSpelled isNameChar cs then some (.name cs) else none

/-- A host, and what follows it. Addresses of versions that are still to come are not read. -/
def readHost? : Scan Host
  | '[' :: cs =>
    match cs.dropWhile (· != ']') with
    | [] => none
    | _ :: rest =>
      (IpAddress.readV6 (cs.takeWhile (· != ']'))).map fun a => (.address a, rest)
  | cs => (readName? (cs.takeWhile (· != ':'))).map fun host => (host, cs.dropWhile (· != ':'))

/-- The port behind a host. It may be left out, with its colon or without. -/
def readPort? : List Char → Option (Option Nat)
  | [] => some none
  | [':'] => some none
  | ':' :: digits => (Decimal.readNat? digits).map some
  | _ => none

/-- A host and a port. -/
def readHostAndPort? (userInfo : Option (List Char)) (cs : List Char) : Option Authority := do
  let (host, rest) ← readHost? cs
  let port ← readPort? rest
  return { userInfo, host, port }

/-- An authority. -/
def readAuthority? (cs : List Char) : Option Authority :=
  match cs.dropWhile (· != '@') with
  | [] => readHostAndPort? none cs
  | _ :: rest =>
    let userInfo := cs.takeWhile (· != '@')
    if isSpelled (fun c => isNameChar c || c == ':') userInfo then
      readHostAndPort? (some userInfo) rest
    else none

/-- Characters of schemes. The first one is a letter. -/
def isSchemeChar (c : Char) : Bool :=
  c.isAlphanum || c == '+' || c == '-' || c == '.'

/-- Characters that do not end an authority. -/
def inAuthority (c : Char) : Bool :=
  c != '/' && c != '?' && c != '#'

/-- A URI with an authority. -/
def read? (s : String) : Option Uri :=
  match Scan.run isSchemeChar s.toList with
  | some (scheme, ':' :: '/' :: '/' :: cs) =>
    if scheme.head?.any Char.isAlpha then
      (readAuthority? (cs.takeWhile inAuthority)).map fun authority =>
        { scheme, authority, rest := cs.dropWhile inAuthority }
    else none
  | _ => none

/-! ## Hosts and ports -/

theorem readName?_of_readV4 {cs : List Char} {a b c d : Nat}
    (address : IpAddress.readV4 cs = some (a, b, c, d, [])) :
    readName? cs = some (.address (.v4 a b c d)) := by
  rw [readName?, address]

theorem readPort?_digits (port : Nat) : readPort? (':' :: Decimal.digits port) = some port := by
  have some_digit := Decimal.digits_ne_nil port
  rw [readPort?.eq_3 _ some_digit, Decimal.readNat?_digits]
  rfl

/-- Behind the colon of a port there is no other colon. -/
theorem readPort?_of_colon (cs ds : List Char) : readPort? (':' :: (cs ++ ':' :: ds)) = none := by
  have no_number : Decimal.readNat? (cs ++ ':' :: ds) = none := by
    rw [Decimal.readNat?.eq_2 _ (by simp), Decimal.readDigits?_append]
    exact Option.bind_eq_none_iff.2 fun n _ => rfl
  rw [readPort?.eq_3 _ (by simp), no_number]
  rfl

theorem readHost?_append {text : List Char} (no_bracket : '[' ∉ text) (no_colon : ':' ∉ text)
    (rest : List Char) :
    readHost? (text ++ ':' :: rest) = (readName? text).map fun host => (host, ':' :: rest) := by
  have inside : ∀ c ∈ text, (c != ':') = true := fun c hc => by
    simpa using ne_of_mem_of_not_mem hc no_colon
  have ends : ∀ c ∈ (':' :: rest).head?, (c != ':') = false := by simp
  have unbracketed (cs : List Char) (h : text ++ ':' :: rest = '[' :: cs) : False := by
    cases text with
    | nil => simp at h
    | cons c text =>
      obtain rfl := (List.cons.inj h).1
      exact no_bracket List.mem_cons_self
  rw [readHost?.eq_2 _ unbracketed, takeWhile_append_of_head? inside ends,
    dropWhile_append_of_head? inside ends]

theorem readAuthority?_of_not_mem {cs : List Char} (no_user : '@' ∉ cs) :
    readAuthority? cs = readHostAndPort? none cs := by
  have all : cs.dropWhile (· != '@') = [] := by
    rw [List.dropWhile_eq_nil_iff]
    exact fun c hc => by simpa using ne_of_mem_of_not_mem hc no_user
  rw [readAuthority?, all]

section

variable {text : List Char} (no_bracket : '[' ∉ text) (no_user : '@' ∉ text)
include no_bracket no_user

/-- A host without colons and a port are read back. -/
theorem readAuthority?_of_name {host : Host} (read : readName? text = some host)
    (no_colon : ':' ∉ text) (port : Nat) :
    readAuthority? (text ++ ':' :: Decimal.digits port) = some { host, port := some port } := by
  have no_user : '@' ∉ text ++ ':' :: Decimal.digits port := by
    refine List.not_mem_append no_user (List.not_mem_cons_of_ne_of_not_mem (by decide) fun h => ?_)
    exact absurd (Decimal.isDigit_of_mem h) (by decide)
  rw [readAuthority?_of_not_mem no_user, readHostAndPort?, readHost?_append no_bracket no_colon,
    read]
  simp only [Option.map_some, Option.bind_eq_bind, Option.bind_some, readPort?_digits]
  rfl

/-- Nothing is read of a host with colons that is not in brackets: it ends at its first colon, and
what follows is no port. -/
theorem readAuthority?_of_colon (colon : ':' ∈ text) (port : Nat) :
    readAuthority? (text ++ ':' :: Decimal.digits port) = none := by
  obtain ⟨front, back, rfl, no_colon⟩ := List.eq_append_cons_of_mem colon
  have no_user : '@' ∉ front ++ ':' :: back ++ ':' :: Decimal.digits port := by
    refine List.not_mem_append no_user (List.not_mem_cons_of_ne_of_not_mem (by decide) fun h => ?_)
    exact absurd (Decimal.isDigit_of_mem h) (by decide)
  have no_bracket : '[' ∉ front := fun h => no_bracket (List.mem_append_left _ h)
  rw [readAuthority?_of_not_mem no_user, List.append_assoc, List.cons_append, readHostAndPort?,
    readHost?_append no_bracket no_colon]
  cases readName? front with
  | none => rfl
  | some host =>
    simp only [Option.map_some, Option.bind_eq_bind, Option.bind_some, readPort?_of_colon]
    rfl

end

/-! ## URIs -/

theorem inAuthority_of_isDigit {c : Char} (h : c.isDigit) : inAuthority c := by
  have apart (d : Char) (other : d.isDigit = false) : c ≠ d := by
    rintro rfl
    rw [h] at other
    cases other
  simp [inAuthority, apart]

/-- The authority of a URI is read up to its path. -/
theorem read?_http {authority path : List Char} (whole : ∀ c ∈ authority, inAuthority c)
    (slash : ∀ c ∈ path.head?, c = '/') {s : String}
    (written : s.toList = "http://".toList ++ (authority ++ path)) :
    read? s = (readAuthority? authority).map fun authority =>
      { scheme := "http".toList, authority, rest := path } := by
  have ends : ∀ c ∈ path.head?, inAuthority c = false := by
    intro c hc
    obtain rfl := slash c hc
    decide
  have scheme : Scan.run isSchemeChar s.toList
      = some ("http".toList, ':' :: '/' :: '/' :: (authority ++ path)) := by
    have inside : ∀ c ∈ "http".toList, isSchemeChar c := List.all_eq_true.1 (by decide)
    have ends : ∀ c ∈ (':' :: '/' :: '/' :: (authority ++ path)).head?, isSchemeChar c = false := by
      rintro c ⟨⟩
      decide
    rw [written]
    exact Scan.run_append (by decide) inside ends
  rw [read?, scheme]
  simp only [takeWhile_append_of_head? whole ends, dropWhile_append_of_head? whole ends]
  rfl

example : read? "http://[fe80::1]:5000/d" = some
    { scheme := "http".toList
      authority := { host := .address (.v6 [0xFE80, 0, 0, 0, 0, 0, 0, 1]), port := some 5000 }
      rest := "/d".toList } := by decide +kernel

end Uri

end TorznabGateway
