import TorznabGateway.Config.Load
import TorznabGateway.Proofs.Config.Environment
import TorznabGateway.Proofs.Toml.DistinctNames

/-!
# A variable over a file

A variable sets one setting and leaves the others as the file has them. What it sets is the value of
its text, which need not be the text itself, and only a text will do. A section that the file writes
as a list has no names to be merged by, so that a variable replaces it as a whole.

## Main definitions

* `Config.TextSetting`: the optional texts among the settings.
* `Config.TextSetting.isListed`: whether a file writes the section of a setting as a list.

## Main statements

* `Config.TextSetting.ofJson?_overlay`: what a section with one more member is read as.
* `Config.TextSetting.load_variable`: which configuration is loaded with one variable.
* `Config.TextSetting.load_variable_differs`: texts that are not their own values, and lists.
-/
namespace TorznabGateway

/-! ## Fields of objects -/

namespace Json

variable {α : Type} {name : String} {read? : Json → Option α} {default : α}
  {members : List (String × Json)}

/-- What an object says about a field with a default. -/
def memberOr (name : String) (read? : Json → Option α) (default : α)
    (members : List (String × Json)) : Option α :=
  (lookup? name members).elim (some default) read?

theorem memberOr_put (nodup : (members.map Prod.fst).Nodup) (other : String) (v : Json) :
    memberOr name read? default (Named.put other v members)
      = if name = other then read? v else memberOr name read? default members := by
  rw [memberOr, lookup?_put nodup]
  split <;> rfl

/-- The record that the members of an object write. -/
def Record.ofMembers (names : List String) (members : List (String × Json)) : Record :=
  ⟨names.map fun n => (n, (lookup? n members).elim .missing .given)⟩

theorem Record.ofJson?_object (e : Excess) (names : List String) :
    Record.ofJson? e names (.object members) = some (.ofMembers names members) := rfl

theorem Record.slot_ofMembers {names : List String} (known : name ∈ names) :
    (Record.ofMembers names members).slot name
      = (lookup? name members).elim .missing .given := by
  rw [Record.slot, Record.ofMembers, lookup?_map_self known, Option.getD_some]

theorem Record.withDefault_ofMembers {names : List String} (known : name ∈ names) :
    (Record.ofMembers names members).withDefault name read? default
      = memberOr name read? default members := by
  rw [Record.withDefault, Record.slot_ofMembers known, memberOr]
  cases lookup? name members <;> rfl

/-- An optional text is only left out by `null`. -/
theorem readOption?_toText? {v : Json} (some_value : v ≠ .null) :
    Record.readOption? toText? v = (toText? v).map some := by
  cases v with
  | null => exact absurd rfl some_value
  | _ => rfl

/-- What is laid over a value is a text if it was one before. -/
theorem readOption?_overlay {v : Json} (some_value : v ≠ .null) (under : Json) :
    Record.readOption? toText? (Environment.overlay under v) = (toText? v).map some := by
  cases v with
  | null => exact absurd rfl some_value
  | object members => cases under <;> rfl
  | _ => rfl

end Json

namespace Config

open Json Environment

variable {e : Excess} {members : List (String × Json)} {c : Config}

theorem readAuth?_object : readAuth? e (.object members) = do
    let apiKey ← memberOr "api_key" (Record.readOption? toText?) none members
    let passphrase ← memberOr "passphrase" (Record.readOption? toText?) none members
    return { apiKey, passphrase } := by
  simp [readAuth?, Record.ofJson?_object, Record.optionalOrCut, Record.withDefault_ofMembers]

theorem readServer?_object : readServer? e (.object members) = do
    let host ← memberOr "host" (fun v => (toText? v).bind IpAddress.parse?) .any members
    let port ← memberOr "port" u16 8080 members
    let publicUrl ← memberOr "public_url" (Record.readOption? toText?) none members
    return { host, port, publicUrl } := by
  simp [readServer?, Record.ofJson?_object, Record.optionalOrCut, Record.withDefault_ofMembers]

theorem ofJson?_object : ofJson? e (.object members) = do
    let auth ← memberOr "auth" (readAuth? e) {} members
    let server ← memberOr "server" (readServer? e) {} members
    let cache ← memberOr "cache" (readCache? e) {} members
    let search ← memberOr "search" (readSearch? e) {} members
    let jackett ← memberOr "jackett" (Record.readOption? (readJackett? e)) none members
    let aliases ← memberOr "aliases" readAliases? [] members
    return { auth, server, cache, search, jackett, aliases } := by
  simp [ofJson?, Record.ofJson?_object, Record.optionalOrCut, Record.withDefault_ofMembers]

/-- The optional texts among the settings: the secrets, and the address for clients. -/
inductive TextSetting where
  | apiKey
  | passphrase
  | publicUrl

namespace TextSetting

/-- The section of a setting. -/
def sectionName : TextSetting → String
  | apiKey | passphrase => "auth"
  | publicUrl => "server"

/-- The name of a setting in its section. -/
def field : TextSetting → String
  | apiKey => "api_key"
  | passphrase => "passphrase"
  | publicUrl => "public_url"

/-- The variable that sets a setting. -/
def variableName : TextSetting → String
  | apiKey => "NABGATE_AUTH__API_KEY"
  | passphrase => "NABGATE_AUTH__PASSPHRASE"
  | publicUrl => "NABGATE_SERVER__PUBLIC_URL"

/-- A configuration with another text for a setting. -/
def set (s : TextSetting) (t : Option String) (c : Config) : Config :=
  match s with
  | apiKey => { c with auth := { c.auth with apiKey := t } }
  | passphrase => { c with auth := { c.auth with passphrase := t } }
  | publicUrl => { c with server := { c.server with publicUrl := t } }

/-- A configuration with defaults for the section of a setting. -/
def reset (s : TextSetting) (c : Config) : Config :=
  match s with
  | apiKey | passphrase => { c with auth := {} }
  | publicUrl => { c with server := {} }

/-- A configuration with what a value says of the section of a setting. -/
def readSection? (s : TextSetting) (e : Excess) (c : Config) (v : Json) : Option Config :=
  match s with
  | apiKey | passphrase => do
    let auth ← readAuth? e v
    return { c with auth }
  | publicUrl => do
    let server ← readServer? e v
    return { c with server }

/-- Whether a file writes the section of a setting as a list. -/
def isListed (s : TextSetting) (document : String) : Bool :=
  (((Toml.parse? document).bind (Json.get? s.sectionName)).bind toArray?).isSome

variable {s : TextSetting}

theorem path?_variableName (s : TextSetting) :
    path? s.variableName = some [s.sectionName, s.field] := by
  cases s <;> decide

/-! ## Sections -/

/-- A section is the member of its name, or the default. -/
theorem memberOr_readSection? (h : ofJson? e (.object members) = some c) (s : TextSetting) :
    memberOr s.sectionName (s.readSection? e c) (s.reset c) members = some c := by
  simp only [ofJson?_object, Option.bind_eq_bind, Option.bind_eq_some_iff, Option.pure_def,
    Option.some.injEq] at h
  obtain ⟨auth, readAuth, server, readServer, cache, -, search, -, jackett, -, aliases, -, rfl⟩ := h
  unfold memberOr at readAuth readServer ⊢
  cases s with
  | apiKey | passphrase =>
    rw [sectionName]
    cases written : lookup? "auth" members <;> simp_all [readSection?, reset]
  | publicUrl =>
    rw [sectionName]
    cases written : lookup? "server" members <;> simp_all [readSection?, reset]

/-- Where a section is replaced, the others are read as before. -/
theorem ofJson?_put (nodup : (members.map Prod.fst).Nodup)
    (h : ofJson? e (.object members) = some c) (s : TextSetting) (v : Json) :
    ofJson? e (.object (Named.put s.sectionName v members)) = s.readSection? e c v := by
  simp only [ofJson?_object, Option.bind_eq_bind, Option.bind_eq_some_iff, Option.pure_def,
    Option.some.injEq] at h
  obtain ⟨auth, readAuth, server, readServer, cache, readCache, search, readSearch, jackett,
    readJackett, aliases, readAliases, rfl⟩ := h
  cases s <;> simp [ofJson?_object, memberOr_put nodup, sectionName, readSection?, *]

/-- Where a member of a section is replaced by what says a text, the others are read as before. -/
theorem readSection?_put (nodup : (members.map Prod.fst).Nodup)
    (h : s.readSection? e c (.object members) = some c) {v : Json} {t : Option String}
    (said : Record.readOption? toText? v = t.map some) :
    s.readSection? e c (.object (Named.put s.field v members))
      = t.map fun t => s.set (some t) c := by
  cases s with
  | apiKey | passphrase =>
    simp only [readSection?, readAuth?_object, Option.bind_eq_bind, Option.bind_eq_some_iff,
      Option.pure_def, Option.some.injEq] at h
    obtain ⟨_, ⟨apiKey, readKey, passphrase, readPassphrase, rfl⟩, same⟩ := h
    have auth : c.auth = { apiKey, passphrase } := (congrArg Config.auth same).symm
    cases t <;> simp [readSection?, readAuth?_object, memberOr_put nodup, field, set, *]
  | publicUrl =>
    simp only [readSection?, readServer?_object, Option.bind_eq_bind, Option.bind_eq_some_iff,
      Option.pure_def, Option.some.injEq] at h
    obtain ⟨_, ⟨host, readHost, port, readPort, publicUrl, readUrl, rfl⟩, same⟩ := h
    have server : c.server = { host, port, publicUrl } := (congrArg Config.server same).symm
    cases t <;> simp [readSection?, readServer?_object, memberOr_put nodup, field, set, *]

theorem readSection?_nil (s : TextSetting) (c : Config) :
    s.readSection? e c (.object []) = some (s.reset c) := by
  cases s <;> rfl

theorem readSection?_reset (s : TextSetting) (c : Config) :
    s.readSection? e (s.reset c) = s.readSection? e c := by
  cases s <;> rfl

/-- A section with one member. -/
theorem readSection?_single (s : TextSetting) (c : Config) {v : Json} (some_value : v ≠ .null) :
    s.readSection? e c (.object [(s.field, v)])
      = (toText? v).map fun t => s.set (some t) (s.reset c) := by
  have empty : s.readSection? e (s.reset c) (.object []) = some (s.reset c) := by
    rw [readSection?_reset, readSection?_nil]
  have nodup : (([] : List (String × Json)).map Prod.fst).Nodup := List.nodup_nil
  rw [← readSection?_reset]
  exact readSection?_put nodup empty (readOption?_toText? some_value)

/-- A member is laid over a section. -/
theorem readSection?_overlay {u : Json} (distinct : u.Distinct)
    (h : s.readSection? e c u = some c) {v : Json} (some_value : v ≠ .null) :
    s.readSection? e c (overlay u (.object [(s.field, v)]))
      = (toText? v).map fun t =>
          s.set (some t) (if (toArray? u).isSome then s.reset c else c) := by
  cases u with
  | object members =>
    obtain ⟨nodup, -⟩ := distinct_object_iff.1 distinct
    refine readSection?_put nodup h ?_
    cases Named.get? s.field members with
    | none => exact readOption?_toText? some_value
    | some u => exact readOption?_overlay some_value u
  | array items => exact readSection?_single s c some_value
  -- Other values are no sections.
  | _ => cases s <;> cases h

/-- A setting is laid over a configuration. -/
theorem ofJson?_overlay (distinct : Json.Distinct (.object members))
    (h : ofJson? e (.object members) = some c) (s : TextSetting) {v : Json}
    (some_value : v ≠ .null) :
    ofJson? e (overlay (.object members) (nest v [s.sectionName, s.field]))
      = (toText? v).map fun t => s.set (some t)
          (if ((lookup? s.sectionName members).bind toArray?).isSome then s.reset c else c) := by
  obtain ⟨nodup, -⟩ := distinct_object_iff.1 distinct
  have read := memberOr_readSection? h s
  refine (ofJson?_put nodup h s _).trans ?_
  rw [lookup?_eq_get? nodup]
  rw [memberOr, lookup?_eq_get? nodup] at read
  cases written : Named.get? s.sectionName members with
  | none =>
    have default : s.reset c = c := by simpa [written] using read
    exact (readSection?_single s c some_value).trans (by simp [default])
  | some u =>
    have read : s.readSection? e c u = some c := by simpa [written] using read
    exact readSection?_overlay (distinct_of_get? distinct written) read some_value

/-! ## Loading -/

variable {document : String} {before after : List (String × String)}

theorem apply_none (others : ∀ x ∈ before ++ after, path? x.1 = none) :
    apply (.object members) (before ++ after) = .object members := by
  rw [apply, settings_none others]
  rfl

/-- A file that is accepted without variables is accepted with one if the value of the variable is a
text. This is the setting then. The other settings are those of the file, but for a section that the
file writes as a list: what else such a section sets is lost. Plain texts are their own values. -/
theorem load_variable (s : TextSetting) (path v : String)
    (others : ∀ x ∈ before ++ after, path? x.1 = none)
    (loaded : load path (some document) (before ++ after) = .ok c) :
    (load path (some document) (before ++ (s.variableName, v) :: after)
      = match value v with
        | .text t => .ok (s.set (some t) (if s.isListed document then s.reset c else c))
        | _ => .error .unreadable)
      ∧ (IsPlain v → value v = .text v) := by
  refine ⟨?_, value_of_isPlain⟩
  rw [load, ofLayers] at loaded ⊢
  cases parsed : Toml.parse? document with
  | none => simp [parsed] at loaded
  | some written =>
    obtain ⟨members, rfl, distinct⟩ := Toml.exists_members_of_parse? parsed
    have read : ofJson? .ignored (.object members) = some c := by
      simp only [parsed, apply_none others] at loaded
      split at loaded
      · next read => rw [read, Except.ok.inj loaded]
      · cases loaded
    have laid := ofJson?_overlay distinct read s (value_ne_null v)
    have listed : s.isListed document
        = ((lookup? s.sectionName members).bind toArray?).isSome := by
      rw [isListed, parsed]
      rfl
    simp only [apply, settings_single others (path?_variableName s), laid, listed]
    cases value v <;> rfl

/-- The address in a file is replaced by the one in a variable, and the port is not. -/
theorem load_variable_address :
    let document := "[server]\nport = 3000\npublic_url = \"http://file.example\"\n"
    let env := [("PATH", "/bin")]
    (∀ x ∈ env, path? x.1 = none)
      ∧ load "config.toml" (some document) env
        = .ok { server := { port := 3000, publicUrl := some "http://file.example" } }
      ∧ IsPlain "http://env.example"
      ∧ load "config.toml" (some document)
          (env ++ [("NABGATE_SERVER__PUBLIC_URL", "http://env.example")])
        = .ok { server := { port := 3000, publicUrl := some "http://env.example" } } := by
  intro document env
  have others : ∀ x ∈ env ++ [], path? x.1 = none := by decide
  have loaded : load "config.toml" (some document) (env ++ [])
      = .ok { server := { port := 3000, publicUrl := some "http://file.example" } } := by
    decide +kernel
  have plain : IsPlain "http://env.example" :=
    { trimmed := by decide
      start := by
        intro c first
        obtain rfl : 'h' = c := Option.some.inj first
        decide
      noBoolean := by decide
      noNumber := by decide }
  have listed : publicUrl.isListed document = false := by decide +kernel
  obtain ⟨changed, own⟩ := load_variable .publicUrl "config.toml" "http://env.example" others loaded
  rw [own plain, listed] at changed
  exact ⟨others, loaded, plain, changed⟩

/-- What looks like a number is no text, and a list is replaced with all that it sets. -/
theorem load_variable_differs :
    (load "config.toml" (some "") [] = .ok {}
      ∧ load "config.toml" (some "") [(apiKey.variableName, "12345")]
        ≠ .ok (apiKey.set (some "12345") {}))
      ∧ load "config.toml" (some "auth = [\"k\", \"p\"]\n") []
        = .ok { auth := { apiKey := some "k", passphrase := some "p" } }
      ∧ load "config.toml" (some "auth = [\"k\", \"p\"]\n") [(apiKey.variableName, "x")]
        ≠ .ok (apiKey.set (some "x")
            { auth := { apiKey := some "k", passphrase := some "p" } }) := by
  decide +kernel

end TextSetting

end Config

end TorznabGateway
