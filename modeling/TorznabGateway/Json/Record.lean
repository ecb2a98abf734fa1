import TorznabGateway.Json.Reader

/-!
# Records

Reading a structure with named fields from a JSON value. A structure may be written as an object,
whose unknown members are ignored, or as a list of its fields in their declared order. What a field
that is left out means is up to the field: it may be required, have a default, or be an option. A
list that ends early leaves fields out for which only a default helps.
-/
namespace TorznabGateway.Json

/-- What a value says about one field. -/
inductive Slot where
  /-- The field is written. -/
  | given (v : Json)
  /-- The object has no member for the field. -/
  | missing
  /-- The list ends before the field. -/
  | cut

/-- Whether a list may be longer than the structure has fields. -/
inductive Excess where
  | refused
  | ignored
  deriving DecidableEq

/-- The fields of a structure as a value gives them. -/
structure Record where
  slots : List (String × Slot)

namespace Record

/-- Take the elements of a list as fields in their order. -/
def ofItems (names : List String) (items : List Json) : Record :=
  ⟨names.zipIdx.map fun (name, i) => (name, (items[i]?).elim .cut .given)⟩

/-- The record a value writes; of repeated members the last one counts. -/
def ofJson? (excess : Excess) (names : List String) : Json → Option Record
  | .object members =>
    some ⟨names.map fun name => (name, (lookup? name members).elim .missing .given)⟩
  | .array items =>
    if excess = .refused ∧ names.length < items.length then none else some (ofItems names items)
  | _ => none

/-- The members of an object that are fields. Every name must be readable and no field may be
repeated; the values of other members are not looked at. -/
def knownMembers? (names : List String) :
    List (List UInt8 × Spelled) → Option (List (String × Spelled))
  | [] => some []
  | (spelledName, v) :: rest =>
    match Quoted.read? spelledName, knownMembers? names rest with
    | some name, some known =>
      if names.contains name then
        if known.any (·.1 == name) then none else some ((name, v) :: known)
      else some known
    | _, _ => none

/-- The record a document writes. Unlike in `ofJson?`, a repeated field is an error, and what is
not read may hold strings that stand for no text. -/
def ofSpelled? (names : List String) : Spelled → Option Record
  | .object members => do
    let known ← knownMembers? names members
    let texts ← known.mapM fun (name, v) => (mapText? Quoted.read? v).map fun w => (name, w)
    ofJson? .refused names (.object texts)
  | .array items =>
    if names.length < items.length then none
    else (mapTextItems? Quoted.read? items).map (ofItems names)
  | _ => none

/-- What the record says about a field. -/
def slot (r : Record) (name : String) : Slot :=
  (lookup? name r.slots).getD .missing

/-- A field that must be written. -/
def required {α : Type} (r : Record) (name : String) (read? : Json → Option α) : Option α :=
  match r.slot name with
  | .given v => read? v
  | _ => none

/-- A field with a default. -/
def withDefault {α : Type} (r : Record) (name : String) (read? : Json → Option α) (default : α) :
    Option α :=
  match r.slot name with
  | .given v => read? v
  | _ => some default

/-- An optional value, where `null` is written for none. -/
def readOption? {α : Type} (read? : Json → Option α) : Json → Option (Option α)
  | .null => some none
  | v => (read? v).map some

/-- A field that may be left out of an object, but not cut off a list. -/
def optional {α : Type} (r : Record) (name : String) (read? : Json → Option α) :
    Option (Option α) :=
  match r.slot name with
  | .given v => readOption? read? v
  | .missing => some none
  | .cut => none

/-- A field that may be left out of an object or cut off a list. -/
def optionalOrCut {α : Type} (r : Record) (name : String) (read? : Json → Option α) :
    Option (Option α) :=
  r.withDefault name (readOption? read?) none

end Record

/-- A list of values. -/
def readList? {α : Type} (read? : Json → Option α) : Json → Option (List α)
  | .array items => items.mapM read?
  | _ => none

def toBool? : Json → Option Bool
  | .boolean b => some b
  | _ => none

def isNull : Json → Bool
  | .null => true
  | _ => false

/-- Whether a value is `null` or an object without members. -/
def isNullOrEmpty : Json → Bool
  | .object [] => true
  | v => isNull v

/-- The name of an alternative without content: a text, or an object whose only member, named so,
holds a value that counts as none. -/
def variantName? (isNone : Json → Bool) : Json → Option String
  | .text s => some s
  | .object [(name, v)] => if isNone v then some name else none
  | _ => none

/-- The member of an optional text. -/
def optionMember (name : String) (v : Option Json) : List (String × Json) :=
  match v with
  | some v => [(name, v)]
  | none => []

end TorznabGateway.Json
