import TorznabGateway.Proofs.Net.Host
import TorznabGateway.Proofs.Net.Path

/-!
# What stands in front of a query is read back

In the authority of a URL of the web, the last at sign ends the credentials and the last colon
behind it starts the port, unless it is within brackets. None of these is left in a part once it has
been read, so the parts are read back from the text that is written for them.

## Main definitions

* `Url.Web`: URLs of the web whose parts in front of the query are read back.

## Main statements

* `Url.Web.readHierarchy?_chars`: what stands in front of the query is read back.
* `Url.web_of_readHierarchy?`: whatever was read of such a URL is.
-/
namespace TorznabGateway.Url

open Text Encoding

variable {toAscii : DomainToAscii}

/-! ## Authorities -/

theorem splitCredentials_append {credentials rest : List Char} (last : '@' ∉ rest) :
    splitCredentials (credentials ++ '@' :: rest) = (some credentials, rest) := by
  have inside (c : Char) (hc : c ∈ rest.reverse) : (c != '@') = true := by
    rw [bne_iff_ne]
    rintro rfl
    exact last (List.mem_reverse.1 hc)
  have reversed : (credentials ++ '@' :: rest).reverse
      = rest.reverse ++ '@' :: credentials.reverse := by simp
  rw [splitCredentials, reversed, List.takeWhile_append_of_pos inside, List.takeWhile_cons,
    if_neg (by decide), List.append_nil, List.drop_left]
  simp

theorem splitCredentials_of_not_mem {cs : List Char} (h : '@' ∉ cs) :
    splitCredentials cs = (none, cs) := by
  have inside (c : Char) (hc : c ∈ cs.reverse) : (c != '@') = true := by
    rw [bne_iff_ne]
    rintro rfl
    exact h (List.mem_reverse.1 hc)
  have whole : cs.reverse.takeWhile (· != '@') = cs.reverse :=
    List.takeWhile_eq_self_iff.2 inside
  rw [splitCredentials, whole, List.drop_length]

/-- The first slash ends an authority. -/
theorem splitAuthority_append {authority : List Char} (inside : ∀ c ∈ authority, !isSlash true c)
    (rest : List Char) :
    splitAuthority true (authority ++ '/' :: rest) = (authority, '/' :: rest) := by
  rw [splitAuthority, List.takeWhile_append_of_pos inside, List.dropWhile_append_of_pos inside]
  simp [isSlash]

/-- Just the two slashes in front of an authority are passed over, as it is not empty. -/
theorem dropWhile_isSlash {authority : List Char} (some_char : authority ≠ [])
    (inside : ∀ c ∈ authority, !isSlash true c) (rest : List Char) :
    ('/' :: '/' :: (authority ++ rest)).dropWhile (isSlash true) = authority ++ rest := by
  obtain ⟨c, cs, rfl⟩ := List.exists_cons_of_ne_nil some_char
  have slash : isSlash true '/' = true := by decide
  have no_slash : isSlash true c = false := by simpa using inside c List.mem_cons_self
  simp [slash, no_slash]

/-- User name and password are read back. -/
theorem exists_splitCredentials (u : Url) (name : ':' ∉ u.username) {rest : List Char}
    (last : '@' ∉ rest) : ∃ credentials,
      splitCredentials (u.credentialChars ++ rest) = (credentials, rest)
        ∧ splitFirst ':' (credentials.getD []) = (u.username, u.password) := by
  unfold credentialChars
  split
  · next none =>
    rw [Bool.and_eq_true, List.isEmpty_iff, List.isEmpty_iff] at none
    exact ⟨_, splitCredentials_of_not_mem last, by rw [none.1, none.2]; rfl⟩
  split
  · next no_password =>
    refine ⟨some u.username, ?_, ?_⟩
    · rw [List.append_assoc, List.singleton_append, splitCredentials_append last]
    · rw [Option.getD_some, splitFirst_of_not_mem name, List.isEmpty_iff.1 no_password]
  · refine ⟨some (u.username ++ ':' :: u.password), ?_, ?_⟩
    · rw [List.append_assoc, List.singleton_append, splitCredentials_append last]
    · exact splitFirst_append_cons u.password name

theorem splitPort_append_digits (host : List Char) (n : Nat) :
    splitPort (host ++ ':' :: Decimal.digits n) = (host, Decimal.digits n) := by
  have inside (c : Char) (hc : c ∈ (Decimal.digits n).reverse) :
      (c != ':' && c != ']') = true := by
    have digit := Decimal.isDigit_of_mem (List.mem_reverse.1 hc)
    rw [Bool.and_eq_true, bne_iff_ne, bne_iff_ne]
    constructor <;> rintro rfl <;> exact absurd digit (by decide)
  have reversed : (host ++ ':' :: Decimal.digits n).reverse
      = (Decimal.digits n).reverse ++ ':' :: host.reverse := by simp
  rw [splitPort, reversed, List.takeWhile_append_of_pos inside, List.takeWhile_cons,
    if_neg (by decide), List.append_nil, List.drop_left]
  simp

/-- Where no port is written, none is read. -/
theorem splitPort_of_closed {host : List Char} (h : ':' ∉ host ∨ host.getLast? = some ']') :
    splitPort host = (host, []) := by
  let inPort := fun c : Char => c != ':' && c != ']'
  have no_colon : ∀ xs, host.reverse.drop (host.reverse.takeWhile inPort).length ≠ ':' :: xs := by
    intro xs colon
    rcases h with absent | bracket
    · have inside : ':' ∈ host.reverse := List.mem_of_mem_drop (colon ▸ List.mem_cons_self)
      exact absent (List.mem_reverse.1 inside)
    · have first : host.reverse.head? = some ']' := by rw [List.head?_reverse, bracket]
      obtain ⟨before, reversed⟩ := List.head?_eq_some_iff.1 first
      rw [reversed] at colon
      simp [inPort] at colon
  unfold splitPort
  dsimp only
  split
  · next xs colon => exact absurd colon (no_colon xs)
  · rfl

/-- The port is read back. -/
theorem readPort?_of_port {scheme : List Char} {port : Option Nat}
    (h : ∀ n ∈ port, n ≤ Decimal.max16 ∧ defaultPort? scheme ≠ some n) :
    readPort? scheme (port.elim [] Decimal.digits) = some port := by
  cases port with
  | none => rfl
  | some n =>
    obtain ⟨fits, unusual⟩ := h n rfl
    rw [Option.elim_some, readPort?, if_neg (by simp [Decimal.digits_ne_nil]),
      Decimal.readNat?_digits]
    simp [unusual, Nat.not_lt.2 fits]

theorem portChars_eq (u : Url) : u.portChars = u.port.elim [] fun n => ':' :: Decimal.digits n := by
  unfold portChars
  cases u.port <;> rfl

theorem mem_portChars {u : Url} {c : Char} (h : c ∈ u.portChars) : c = ':' ∨ c.isDigit := by
  unfold portChars at h
  split at h
  · exact (List.mem_cons.1 h).imp_right Decimal.isDigit_of_mem
  · simp at h

theorem mem_credentialChars {u : Url} {c : Char} (h : c ∈ u.credentialChars) :
    c ∈ u.username ∨ c ∈ u.password ∨ c = ':' ∨ c = '@' := by
  unfold credentialChars at h
  split at h
  · simp at h
  split at h
  · simp only [List.mem_append, List.mem_singleton] at h
    grind
  · simp only [List.mem_append, List.mem_cons, List.not_mem_nil, or_false] at h
    grind

theorem apart_of_mem_portChars {u : Url} {c : Char} (h : c ∈ u.portChars) :
    0x20 < c.toNat ∧ c ≠ '/' ∧ c ≠ '\\' ∧ c ≠ '@' := by
  have digits : ∀ n < 10, 0x20 < (Decimal.digit n).toNat ∧ Decimal.digit n ≠ '/'
      ∧ Decimal.digit n ≠ '\\' ∧ Decimal.digit n ≠ '@' := by decide
  rcases mem_portChars h with rfl | digit
  · decide
  · obtain ⟨n, small, rfl⟩ := exists_digit_of_isDigit digit
    exact digits n small

/-! ## Web-like URLs -/

/-- A URL of the web all of whose parts in front of the query are read back. -/
structure Web (toAscii : DomainToAscii) (u : Url) : Prop where
  scheme : u.scheme = "http".toList ∨ u.scheme = "https".toList
  username : escapeSet credentialSet u.username = u.username
  password : escapeSet credentialSet u.password = u.password
  host : ∃ host, u.host = some host ∧ HostText toAscii host
  port : ∀ n ∈ u.port, n ≤ Decimal.max16 ∧ defaultPort? u.scheme ≠ some n
  path : ∃ segments ≠ [], u.path = .segments segments ∧ ∀ s ∈ segments, Settled s

namespace Web

variable {u : Url}

theorem special (h : u.Web toAscii) :
    isSpecialScheme u.scheme = true ∧ u.scheme ≠ "file".toList := by
  rcases h.scheme with web | web <;> rw [web] <;> decide

theorem apart_of_mem_credentialChars (h : u.Web toAscii) {c : Char} (hc : c ∈ u.credentialChars) :
    0x20 < c.toNat ∧ c ≠ '/' ∧ c ≠ '\\' := by
  have part {cs : List Char} (escaped : escapeSet credentialSet cs = cs) (hc : c ∈ cs) :
      0x20 < c.toNat ∧ c ≠ '/' ∧ c ≠ '\\' := by
    rw [← escaped] at hc
    refine ⟨visible_of_mem_escapeSet (by decide) hc, ?_, ?_⟩ <;> rintro rfl <;>
      exact not_mem_escapeSet_of_mem (by decide) (by decide) cs hc
  rcases mem_credentialChars hc with name | password | rfl | rfl
  · exact part h.username name
  · exact part h.password password
  · decide
  · decide

/-- The authority is read back. -/
theorem readAuthority?_chars (h : u.Web toAscii) {host : List Char} (text : HostText toAscii host) :
    readAuthority? toAscii u.scheme (u.credentialChars ++ (host ++ u.portChars))
      = some { scheme := u.scheme, username := u.username, password := u.password
               host := some host, port := u.port, path := .segments [] } := by
  have no_at : '@' ∉ host ++ u.portChars := by
    intro at_sign
    rcases List.mem_append.1 at_sign with inside | inside
    · exact (text.inner _ inside).2.2 rfl
    · exact (apart_of_mem_portChars inside).2.2.2 rfl
  have no_colon : ':' ∉ u.username := by
    rw [← h.username]
    exact not_mem_escapeSet_of_mem (by decide) (by decide) _
  obtain ⟨credentials, cut, parts⟩ := exists_splitCredentials u no_colon no_at
  have port_text : splitPort (host ++ u.portChars) = (host, u.port.elim [] Decimal.digits) := by
    rw [portChars_eq]
    cases u.port with
    | none => simpa using splitPort_of_closed text.closed
    | some n => exact splitPort_append_digits host n
  rw [readAuthority?, cut, h.special.1]
  dsimp only
  rw [port_text]
  dsimp only
  rw [if_neg (by simp [text.ne_nil]), text.again, readPort?_of_port h.port, parts, h.username,
    h.password]
  rfl

/-- No slash is in the authority. -/
theorem no_slash_of_mem_authority (h : u.Web toAscii) {host : List Char}
    (text : HostText toAscii host) {c : Char}
    (hc : c ∈ u.credentialChars ++ (host ++ u.portChars)) : !isSlash true c := by
  have apart : c ≠ '/' ∧ c ≠ '\\' := by
    rcases List.mem_append.1 hc with hc | hc
    · exact (h.apart_of_mem_credentialChars hc).2
    rcases List.mem_append.1 hc with hc | hc
    · exact ⟨(text.inner c hc).1, (text.inner c hc).2.1⟩
    · exact ⟨(apart_of_mem_portChars hc).2.1, (apart_of_mem_portChars hc).2.2.1⟩
  simp [isSlash, apart]

theorem readHierarchy?_chars (h : u.Web toAscii) :
    readHierarchy? toAscii u.scheme (u.authorityChars ++ UrlPath.chars u.path)
      = some { u with query := none, fragment := none } := by
  obtain ⟨host, named, text⟩ := h.host
  obtain ⟨segments, some_segment, path, settled⟩ := h.path
  let authority := u.credentialChars ++ (host ++ u.portChars)
  have written : u.authorityChars ++ UrlPath.chars u.path
      = '/' :: '/' :: (authority ++ '/' :: joinWith ['/'] segments) := by
    simp [authorityChars, named, path, chars_segments some_segment, authority]
  have inside (c : Char) (hc : c ∈ authority) : !isSlash true c :=
    h.no_slash_of_mem_authority text hc
  have some_char : authority ≠ [] := by simp [authority, text.ne_nil]
  have path_read : readPath true false ('/' :: joinWith ['/'] segments) = u.path := by
    rw [← chars_segments some_segment, readPath_chars some_segment settled, path]
  unfold readHierarchy?
  rw [if_neg h.special.2, if_pos h.special.1, written, dropWhile_isSlash some_char inside,
    splitAuthority_append inside]
  dsimp only
  rw [h.readAuthority?_chars text]
  simp [path_read, named]

/-- What stands in front of the query is visible. -/
theorem visible (h : u.Web toAscii) : ∀ c ∈ u.headChars, 0x20 < c.toNat := by
  obtain ⟨host, named, text⟩ := h.host
  obtain ⟨segments, -, path, settled⟩ := h.path
  have scheme : ∀ c ∈ u.scheme, 0x20 < c.toNat := by
    rcases h.scheme with web | web <;> rw [web] <;> exact List.all_iff_forall_prop.1 (by decide)
  have segment (c : Char) (hc : c ∈ UrlPath.chars u.path) : 0x20 < c.toNat := by
    rw [path] at hc
    obtain ⟨s, hs, hc⟩ := List.mem_flatMap.1 hc
    rcases List.mem_cons.1 hc with rfl | hc
    · decide
    · rw [← (settled s hs).escaped] at hc
      exact visible_of_mem_escapeSet (by decide) hc
  intro c hc
  simp only [headChars, authorityChars, named, List.mem_append, List.mem_cons, List.not_mem_nil,
    or_false] at hc
  rcases hc with (hc | rfl | ((((rfl | rfl) | hc) | hc) | hc)) | hc
  · exact scheme c hc
  · decide
  · decide
  · decide
  · exact (h.apart_of_mem_credentialChars hc).1
  · exact text.visible c hc
  · exact (apart_of_mem_portChars hc).1
  · exact segment c hc

end Web

theorem port_of_readPort? {scheme ds : List Char} {port : Option Nat}
    (h : readPort? scheme ds = some port) :
    ∀ n ∈ port, n ≤ Decimal.max16 ∧ defaultPort? scheme ≠ some n := by
  unfold readPort? at h
  split at h
  · obtain rfl := Option.some.inj h
    simp
  split at h
  · split at h
    · simp at h
    · next fits =>
      obtain rfl := Option.some.inj h
      split
      · simp
      · next unusual =>
        rintro n ⟨⟩
        exact ⟨Nat.not_lt.1 fits, unusual⟩
  · simp at h

/-- What was read of a URL of the web is read back. -/
theorem web_of_readHierarchy? (lawful : toAscii.Lawful) {scheme cs : List Char} {u : Url}
    (web : scheme = "http".toList ∨ scheme = "https".toList)
    (h : readHierarchy? toAscii scheme cs = some u) : u.Web toAscii ∧ u.scheme = scheme := by
  have special : isSpecialScheme scheme = true := by rcases web with rfl | rfl <;> decide
  have no_file : scheme ≠ "file".toList := by rcases web with rfl | rfl <;> decide
  unfold readHierarchy? at h
  rw [if_neg no_file, if_pos special] at h
  simp only [Option.bind_eq_bind, Option.bind_eq_some_iff, Option.pure_def,
    Option.some.injEq] at h
  obtain ⟨front, authority, rfl⟩ := h
  unfold readAuthority? at authority
  dsimp only at authority
  split at authority
  · simp at authority
  · simp only [Option.bind_eq_bind, Option.bind_eq_some_iff, Option.pure_def,
      Option.some.injEq] at authority
    obtain ⟨host, read, port, port_read, rfl⟩ := authority
    rw [special] at read
    exact ⟨{
      scheme := web
      username := escapeSet_escapeSet (by decide) _
      password := escapeSet_escapeSet (by decide) _
      host := ⟨host, rfl, hostText_of_readHost? lawful read⟩
      port := port_of_readPort? port_read
      path := readPath_settled _ }, rfl⟩

end TorznabGateway.Url
