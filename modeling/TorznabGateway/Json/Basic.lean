import TorznabGateway.Text.Decimal

/-!
# JSON values

A JSON value is a tree over its string literals. In `Json` a literal is the text it stands for. In
`Json.Spelled` it is the bytes between the quotes, which need not stand for a text: a reader that
skips a value checks its syntax only. The members of an object keep their order and their
repetitions; `get?` answers with the last member of a name.
-/
namespace TorznabGateway

namespace Json

/-- A number literal: an integer without fraction and exponent, or any other spelling. -/
inductive Number where
  | integer (negative : Bool) (magnitude : Nat)
  | decimal (spelling : List Char)
  deriving DecidableEq, Repr, Inhabited

/-- A JSON value whose string literals are held as `σ`. -/
inductive Tree (σ : Type) where
  | null
  | boolean (b : Bool)
  | number (n : Number)
  | text (s : σ)
  | array (items : List (Tree σ))
  | object (members : List (σ × Tree σ))
  deriving Repr, Inhabited

/-- A value as it is spelled. -/
abbrev Spelled := Tree (List UInt8)

end Json

/-- A value with its texts. -/
abbrev Json := Json.Tree String

namespace Json

/-- The value of an integer literal. Minus zero is no integer: only a floating-point number has a
zero with a sign. -/
def Number.toInt? : Number → Option Int
  | .integer false n => some n
  | .integer true 0 => none
  | .integer true n => some (-n)
  | .decimal _ => none

/-- The literal of a natural number. -/
def ofNat {σ : Type} (n : Nat) : Tree σ :=
  .number (.integer false n)

/-- The value of a literal for an integer between the bounds. -/
def toIntBetween? {σ : Type} (low high : Int) : Tree σ → Option Int
  | .number n =>
    match n.toInt? with
    | some i => if low ≤ i ∧ i ≤ high then some i else none
    | none => none
  | _ => none

/-- The value of a literal for a natural number up to a bound. -/
def toNatUpTo? {σ : Type} (limit : Nat) (v : Tree σ) : Option Nat :=
  (toIntBetween? 0 limit v).map Int.toNat

def toText? {σ : Type} : Tree σ → Option σ
  | .text s => some s
  | _ => none

def toArray? {σ : Type} : Tree σ → Option (List (Tree σ))
  | .array items => some items
  | _ => none

/-- The value of the last member with a name. -/
def lookup? {σ τ : Type} [BEq σ] (name : σ) : List (σ × τ) → Option τ
  | [] => none
  | (k, v) :: members =>
    match lookup? name members with
    | some w => some w
    | none => if k == name then some v else none

/-- The last member of an object with a name. -/
def get? (name : String) : Json → Option Json
  | .object members => lookup? name members
  | _ => none

mutual

/-- Read every string literal of a value, refusing the value if one cannot be read. -/
def mapText? {σ τ : Type} (f : σ → Option τ) : Tree σ → Option (Tree τ)
  | .null => some .null
  | .boolean b => some (.boolean b)
  | .number n => some (.number n)
  | .text s => (f s).map .text
  | .array items => (mapTextItems? f items).map .array
  | .object members => (mapTextMembers? f members).map .object

/-- Read every string literal of the items of an array. -/
def mapTextItems? {σ τ : Type} (f : σ → Option τ) : List (Tree σ) → Option (List (Tree τ))
  | [] => some []
  | v :: vs =>
    match mapText? f v, mapTextItems? f vs with
    | some w, some ws => some (w :: ws)
    | _, _ => none

/-- Read every string literal of the members of an object, their names included. -/
def mapTextMembers? {σ τ : Type} (f : σ → Option τ) :
    List (σ × Tree σ) → Option (List (τ × Tree τ))
  | [] => some []
  | (k, v) :: ms =>
    match f k, mapText? f v, mapTextMembers? f ms with
    | some k', some w, some ws => some ((k', w) :: ws)
    | _, _, _ => none

end

end Json

end TorznabGateway
