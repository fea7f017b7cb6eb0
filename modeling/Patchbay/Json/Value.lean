import Patchbay.Json.Literal

/-!
# JSON values

Trees of JSON. The members of an object keep their order, and a name may occur twice:
which of that matters is left to the reader of the tree.
-/

namespace Patchbay.Json

/-- A JSON value. -/
inductive Value
  | null
  | bool (value : Bool)
  | number (numeral : Numeral)
  | string (literal : Literal)
  | array (items : List Value)
  | object (members : List (Literal × Value))
  deriving BEq, Repr, Inhabited

namespace Value

/-- The number of an integer. -/
def int (n : Int) : Value :=
  .number (.ofInt n)

/-- The string of a text. -/
def text (text : String) : Value :=
  .string (.ofText text)

/-- The object with the given members. -/
def record (members : List (String × Value)) : Value :=
  .object (members.map fun member => (.ofText member.1, member.2))

/-- The text of a string. -/
def text? : Value → Option String
  | .string literal => literal.text?
  | _ => none

end Value

end Patchbay.Json
