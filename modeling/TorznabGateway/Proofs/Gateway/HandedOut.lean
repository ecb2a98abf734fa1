import TorznabGateway.Proofs.Download.Link
import TorznabGateway.Proofs.Net.Ip
import TorznabGateway.Proofs.Net.Uri
import TorznabGateway.Search.Sample

/-!
# Where links of the gateway lead

Without a public URL, the base of links is made of the address and the port at which the server
listens. All links that are handed out are this base and a path. They lead to that address and port
if the address is one of version 4, and to this port of `localhost` if the server listens on all
interfaces. An address of version 6 is put into them without brackets, so they are no URIs.

## Main definitions

* `ServerConfig.endpoint`: the host and the port at which clients reach a server.
* `Gateway.HandsOut`: the links that a gateway hands out.

## Main statements

* `Config.valid_host_of_ofJson?`: the host of a configuration that was read is an address.
* `ServerConfig.read?_publicBase_append`: what is read of a link under the base.
* `Gateway.HandsOut.leads_back`: which links lead back to the server.
-/
namespace TorznabGateway

open Text Encoding

/-! ## Hosts of configurations -/

/-- A field with a default that was read is the default or what a value was read as. -/
theorem Json.Record.eq_default_or_of_withDefault {α : Type} {r : Json.Record} {name : String}
    {read? : Json → Option α} {default a : α} (h : r.withDefault name read? default = some a) :
    a = default ∨ ∃ v, read? v = some a := by
  unfold withDefault at h
  split at h
  · next v _ => exact .inr ⟨v, h⟩
  · exact .inl (Option.some.inj h).symm

theorem Config.valid_host_of_readServer? {e : Json.Excess} {v : Json} {s : ServerConfig}
    (h : readServer? e v = some s) : s.host.Valid := by
  simp only [readServer?, Option.bind_eq_bind, Option.bind_eq_some_iff, Option.pure_def,
    Option.some.injEq] at h
  obtain ⟨_, -, host, read, _, -, _, -, rfl⟩ := h
  rcases Json.Record.eq_default_or_of_withDefault read with rfl | ⟨text, address⟩
  · exact (by decide : IpAddress.any.Valid)
  · obtain ⟨_, -, address⟩ := Option.bind_eq_some_iff.1 address
    exact IpAddress.valid_of_parse? address

/-- The host of a configuration that was read is an address. -/
theorem Config.valid_host_of_ofJson? {e : Json.Excess} {v : Json} {c : Config}
    (h : ofJson? e v = some c) : c.server.host.Valid := by
  simp only [ofJson?, Option.bind_eq_bind, Option.bind_eq_some_iff, Option.pure_def,
    Option.some.injEq] at h
  obtain ⟨_, -, _, -, server, read, _, -, _, -, _, -, _, -, rfl⟩ := h
  rcases Json.Record.eq_default_or_of_withDefault read with rfl | ⟨_, read⟩
  · exact (by decide : IpAddress.any.Valid)
  · exact valid_host_of_readServer? read

namespace ServerConfig

variable {s : ServerConfig}

/-! ## The base of links -/

/-- The host at which clients reach a server. -/
def hostName (s : ServerConfig) : Uri.Host :=
  if s.host.isUnspecified then .name "localhost".toList else .address s.host

/-- The host and the port at which clients reach a server. -/
def endpoint (s : ServerConfig) : Uri.Authority where
  host := s.hostName
  port := some s.port

/-- The server listens at one address of version 6 only. -/
def ListensOnV6 (s : ServerConfig) : Prop :=
  s.host.isUnspecified = false ∧ ∃ groups, s.host = .v6 groups

/-- The host as it is written into the base of links. -/
def hostChars (s : ServerConfig) : List Char :=
  if s.host.isUnspecified then "localhost".toList else s.host.chars

theorem toList_publicBase (unset : s.publicUrl = none) :
    s.publicBase.toList = "http://".toList ++ (s.hostChars ++ ':' :: Decimal.digits s.port) := by
  have colon : ":".toList = [':'] := rfl
  rw [publicBase, unset, hostChars]
  simp only [String.toList_append, colon, Decimal.render, String.toList_ofList]
  split
  · simp only [List.append_assoc, List.singleton_append]
  · simp only [IpAddress.render, String.toList_ofList, List.append_assoc, List.singleton_append]

/-- The base of links ends in a digit. -/
theorem trimEndOf_publicBase (unset : s.publicUrl = none) :
    trimEndOf '/' s.publicBase = s.publicBase := by
  refine trimEndOf_of_getLast? fun last => ?_
  have some_digit := List.getLast?_eq_getLast_of_ne_nil (Decimal.digits_ne_nil s.port)
  rw [toList_publicBase unset, ← List.append_assoc, List.append_cons, List.getLast?_append,
    some_digit, Option.some_or, ← some_digit] at last
  exact absurd (Decimal.isDigit_of_mem (List.mem_of_getLast? last)) (by decide)

theorem plain_of_mem_hostChars {c : Char} (h : c ∈ s.hostChars) :
    Uri.inAuthority c ∧ c ≠ '[' ∧ c ≠ '@' := by
  have hex : ∀ n < 16, Uri.inAuthority (Hex.digit n) ∧ Hex.digit n ≠ '[' ∧ Hex.digit n ≠ '@' := by
    decide
  have name : ∀ c ∈ "localhost".toList, Uri.inAuthority c ∧ c ≠ '[' ∧ c ≠ '@' :=
    List.all_iff_forall_prop.1 (by decide)
  rw [hostChars] at h
  split at h
  · exact name c h
  · rcases IpAddress.mem_chars h with rfl | rfl | digit | ⟨n, small, rfl⟩
    · decide
    · decide
    · refine ⟨Uri.inAuthority_of_isDigit digit, ?_, ?_⟩ <;> rintro rfl <;>
        exact absurd digit (by decide)
    · exact hex n small

theorem readName?_hostChars (valid : s.host.Valid) (named : ¬s.ListensOnV6) :
    Uri.readName? s.hostChars = some s.hostName ∧ ':' ∉ s.hostChars := by
  have localhost : Uri.readName? "localhost".toList = some (.name "localhost".toList) := by decide
  cases one : s.host.isUnspecified with
  | true =>
    rw [hostChars, hostName, if_pos one, if_pos one]
    exact ⟨localhost, by decide⟩
  | false =>
    rw [hostChars, hostName, if_neg (by simp [one]), if_neg (by simp [one])]
    match address : s.host with
    | .v4 a b c d =>
      rw [address] at valid
      obtain ⟨ha, hb, hc, hd⟩ := valid
      refine ⟨?_, fun colon => ?_⟩
      · exact Uri.readName?_of_readV4 (IpAddress.readV4_v4Chars ha hb hc hd)
      · rcases IpAddress.mem_v4Chars colon with point | digit
        · exact absurd point (by decide)
        · exact absurd digit (by decide)
    | .v6 groups => exact absurd ⟨one, groups, address⟩ named

/-- What is read of a link under the base: where the server is, unless it listens at an address of
version 6. -/
theorem read?_publicBase_append (unset : s.publicUrl = none) (valid : s.host.Valid)
    {link : String} {path : List Char} (slash : ∀ c ∈ path.head?, c = '/')
    (written : link.toList = s.publicBase.toList ++ path) :
    (¬s.ListensOnV6 → Uri.read? link = some
        { scheme := "http".toList, authority := s.endpoint, rest := path })
      ∧ (s.ListensOnV6 → Uri.read? link = none) := by
  have whole : ∀ c ∈ s.hostChars ++ ':' :: Decimal.digits s.port, Uri.inAuthority c := by
    intro c hc
    simp only [List.mem_append, List.mem_cons] at hc
    rcases hc with host | rfl | digit
    · exact (plain_of_mem_hostChars host).1
    · decide
    · exact Uri.inAuthority_of_isDigit (Decimal.isDigit_of_mem digit)
  have no_bracket : '[' ∉ s.hostChars := fun h => (plain_of_mem_hostChars h).2.1 rfl
  have no_user : '@' ∉ s.hostChars := fun h => (plain_of_mem_hostChars h).2.2 rfl
  rw [Uri.read?_http whole slash (by rw [written, toList_publicBase unset, List.append_assoc])]
  refine ⟨fun named => ?_, fun ⟨one, groups, address⟩ => ?_⟩
  · obtain ⟨read, no_colon⟩ := readName?_hostChars valid named
    rw [Uri.readAuthority?_of_name no_bracket no_user read no_colon]
    rfl
  · have colon : ':' ∈ s.hostChars := by
      rw [hostChars, one, if_neg Bool.false_ne_true, address]
      exact IpAddress.colon_mem_chars (address ▸ valid)
    rw [Uri.readAuthority?_of_colon no_bracket no_user colon]
    rfl

/-- The base for the loopback address of version 6 leads nowhere. -/
theorem publicBase_of_loopback :
    let s : ServerConfig := { host := .v6 [0, 0, 0, 0, 0, 0, 0, 1] }
    s.publicUrl = none ∧ s.host.Valid ∧ s.publicBase = "http://::1:8080"
      ∧ ∀ path, Uri.read? s.publicBase
        ≠ some { scheme := "http".toList, authority := s.endpoint, rest := path } := by
  intro s
  have base : s.publicBase = "http://::1:8080" := by decide +kernel
  have unread : Uri.read? "http://::1:8080" = none := by decide +kernel
  refine ⟨rfl, by decide, base, fun path read => ?_⟩
  rw [base, unread] at read
  cases read

end ServerConfig

namespace Gateway

/-- The links that a gateway hands out: its base, those of items, and those of feeds. -/
inductive HandsOut (g : Gateway) : String → Prop
  | base : HandsOut g g.config.server.publicBase
  | item (i : Item) (replaced : LinkIssuer.replaces i = true) :
    HandsOut g (g.responder.aggregator.issuer.issue i).1.link
  | feed (selector : String) (a : TorznabResponder.Accepted) (built : Time.Moment) :
    HandsOut g (g.responder.feedMeta selector a built).link

section

variable {config : Config} {registry : Registry} {random : List UInt8} {ids : Nat → Uuid}
  {wall : Nat → Time.Moment} {link : String}

/-- A link that is handed out is the base and a path. -/
theorem HandsOut.exists_path (given : (new config registry random ids wall).HandsOut link)
    (unset : config.server.publicUrl = none) :
    ∃ path, link.toList = config.server.publicBase.toList ++ path ∧ ∀ c ∈ path.head?, c = '/' := by
  have trimmed := ServerConfig.trimEndOf_publicBase unset
  cases given with
  | base => exact ⟨[], (List.append_nil _).symm, by simp⟩
  | item i replaced =>
    simp only [LinkIssuer.replaces, Bool.not_eq_true', Bool.or_eq_false_iff,
      String.isEmpty_eq_false_iff] at replaced
    obtain ⟨secret, issuer⟩ : ∃ secret,
        (new config registry random ids wall).responder.aggregator.issuer
          = .new config.server.publicBase secret := ⟨_, rfl⟩
    rw [issuer, LinkIssuer.issue_fst replaced.1 replaced.2, trimmed, String.toList_append]
    refine ⟨_, rfl, ?_⟩
    rw [Route.downloadPath, String.toList_ofList]
    rintro c ⟨⟩
    rfl
  | feed selector a built =>
    refine ⟨"/torznab/".toList ++ (Percent.encode selector).toList, ?_, ?_⟩
    · change (trimEndOf '/' config.server.publicBase ++ "/torznab/" ++ _).toList = _
      rw [trimmed, String.toList_append, String.toList_append, List.append_assoc]
    · rintro c ⟨⟩
      rfl

/-- Without a public URL, every link that is handed out is read as a URI of the web at the host and
port of the server, unless the server listens at an address of version 6. Then none is a URI. -/
theorem HandsOut.leads_back (given : (new config registry random ids wall).HandsOut link)
    (unset : config.server.publicUrl = none) (valid : config.server.host.Valid) :
    ∃ path, link.toList = config.server.publicBase.toList ++ path
      ∧ (¬config.server.ListensOnV6 → Uri.read? link = some
          { scheme := "http".toList, authority := config.server.endpoint, rest := path })
      ∧ (config.server.ListensOnV6 → Uri.read? link = none) := by
  obtain ⟨path, written, slash⟩ := given.exists_path unset
  exact ⟨path, written, ServerConfig.read?_publicBase_append unset valid slash written⟩

end

theorem HandsOut.leads_back_families :
    let private4 : Config := { server := { host := .v4 10 0 0 5 } }
    let local6 : Config := { server := { host := .v6 [0xFE80, 0, 0, 0, 0, 0, 0, 1], port := 5000 } }
    let g4 := new private4 {} [7] default default
    let g6 := new local6 {} [7] default default
    let item := Sample.webItem "Rarbg" "1" "Movie"
    let link (g : Gateway) := (g.responder.aggregator.issuer.issue item).1.link
    (g4.HandsOut (link g4) ∧ private4.server.publicUrl = none ∧ private4.server.host.Valid)
      ∧ (∃ path, Uri.read? (link g4) = some
          { scheme := "http".toList
            authority := { host := .address (.v4 10 0 0 5), port := some 8080 }
            rest := path })
      ∧ (g6.HandsOut (link g6) ∧ local6.server.publicUrl = none ∧ local6.server.host.Valid)
      ∧ Uri.read? (link g6) = none := by
  intro private4 local6 g4 g6 item link
  have replaced : LinkIssuer.replaces (Sample.webItem "Rarbg" "1" "Movie") = true := by decide
  have given4 : g4.HandsOut (link g4) := .item item replaced
  have given6 : g6.HandsOut (link g6) := .item item replaced
  have valid4 : private4.server.host.Valid := by decide
  have valid6 : local6.server.host.Valid := by decide
  obtain ⟨path, -, reads, -⟩ := HandsOut.leads_back given4 rfl valid4
  obtain ⟨-, -, -, unread⟩ := HandsOut.leads_back given6 rfl valid6
  have named : ¬private4.server.ListensOnV6 := by
    rintro ⟨-, groups, ⟨⟩⟩
  exact ⟨⟨given4, rfl, valid4⟩, ⟨path, reads named⟩, ⟨given6, rfl, valid6⟩,
    unread ⟨rfl, _, rfl⟩⟩

end Gateway

end TorznabGateway
