import TorznabGateway.Json.Basic
import TorznabGateway.Json.Quoted

/-!
# Writing JSON

The compact form: no blanks, members in their order.
-/
namespace TorznabGateway.Json

open Text

/-- The spelling of a number. -/
def Number.chars : Number → List Char
  | .integer negative n => if negative then '-' :: Decimal.digits n else Decimal.digits n
  | .decimal spelling => spelling

/-- A text in quotes. -/
def quoted (s : String) : List Char :=
  '"' :: Quoted.escape s ++ ['"']

mutual

/-- The characters of a value. -/
def chars : Json → List Char
  | .null => ['n', 'u', 'l', 'l']
  | .boolean true => ['t', 'r', 'u', 'e']
  | .boolean false => ['f', 'a', 'l', 's', 'e']
  | .number n => n.chars
  | .text s => quoted s
  | .array items => '[' :: itemsChars items ++ [']']
  | .object members => '\x7b' :: membersChars members ++ ['\x7d']

/-- The items of an array, joined by commas. -/
def itemsChars : List Json → List Char
  | [] => []
  | [v] => chars v
  | v :: w :: vs => chars v ++ ',' :: itemsChars (w :: vs)

/-- The members of an object, joined by commas. -/
def membersChars : List (String × Json) → List Char
  | [] => []
  | [(k, v)] => quoted k ++ ':' :: chars v
  | (k, v) :: m :: ms => quoted k ++ ':' :: chars v ++ ',' :: membersChars (m :: ms)

end

/-- The compact spelling of a value. -/
def render (v : Json) : String :=
  .ofList (chars v)

end TorznabGateway.Json
