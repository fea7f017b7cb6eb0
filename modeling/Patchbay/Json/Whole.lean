import Patchbay.Json.Rounding
import Patchbay.Json.Value

/-!
# Whole values

A value that is read before it is known what it is for has to be whole: its numbers are
finite, its strings and names stand for texts, and it does not nest too deep. A value that
is passed over need not be whole.
-/

namespace Patchbay.Json

/-- The greatest number of arrays and objects inside one another in a whole value. -/
def nestingLimit : Nat := 127

namespace Value

mutual

/-- Whether a value is whole, with `depth` arrays and objects around it. -/
def isWhole (depth : Nat) : Value → Bool
  | .null => true
  | .bool _ => true
  | .number numeral => numeral.isFinite
  | .string literal => literal.text?.isSome
  | .array items => depth < nestingLimit && itemsWhole (depth + 1) items
  | .object members => depth < nestingLimit && membersWhole (depth + 1) members

/-- Whether all of the values are whole. -/
def itemsWhole (depth : Nat) : List Value → Bool
  | [] => true
  | item :: rest => item.isWhole depth && itemsWhole depth rest

/-- Whether the names and values of all members are whole. -/
def membersWhole (depth : Nat) : List (Literal × Value) → Bool
  | [] => true
  | (name, value) :: rest =>
    name.text?.isSome && value.isWhole depth && membersWhole depth rest

end

end Value

end Patchbay.Json
