import Patchbay.Json.Token

/-!
# Reading JSON

`Value.read` reads a whole text as one JSON value. It takes the tokens of the text one by
one and keeps the arrays and objects that are open on a stack, so that texts may nest to
any depth.
-/

namespace Patchbay.Json

/-- An array or object that is open, with what it holds so far in reverse. In an object,
the value of the member `name` is being read. -/
inductive Frame
  | array (before : List Value)
  | object (before : List (Literal × Value)) (name : Literal)

/-- What a reader expects next, inside the open arrays and objects. -/
inductive Reader
  /-- A value. -/
  | wantValue (stack : List Frame)
  /-- The first item of an array, or its end. -/
  | firstItem (stack : List Frame)
  /-- The first member of an object, or its end. -/
  | firstMember (stack : List Frame)
  /-- The name of a further member. -/
  | wantName (before : List (Literal × Value)) (stack : List Frame)
  /-- The colon after the name of a member. -/
  | wantColon (before : List (Literal × Value)) (name : Literal) (stack : List Frame)
  /-- What follows the value `last`: a comma, an end, or nothing. -/
  | after (last : Value) (stack : List Frame)

namespace Reader

/-- Reads the first token of a value. -/
def begin (stack : List Frame) : Token → Option Reader
  | .null => some (.after .null stack)
  | .bool value => some (.after (.bool value) stack)
  | .number numeral => some (.after (.number numeral) stack)
  | .string literal => some (.after (.string literal) stack)
  | .beginArray => some (.firstItem stack)
  | .beginObject => some (.firstMember stack)
  | _ => none

/-- Reads a token. -/
def step : Reader → Token → Option Reader
  | .wantValue stack, token => begin stack token
  | .firstItem stack, .endArray => some (.after (.array []) stack)
  | .firstItem stack, token => begin (.array [] :: stack) token
  | .firstMember stack, .endObject => some (.after (.object []) stack)
  | .firstMember stack, .string name => some (.wantColon [] name stack)
  | .wantName before stack, .string name => some (.wantColon before name stack)
  | .wantColon before name stack, .colon => some (.wantValue (.object before name :: stack))
  | .after last (.array before :: stack), .comma => some (.wantValue (.array (last :: before) :: stack))
  | .after last (.array before :: stack), .endArray =>
    some (.after (.array (last :: before).reverse) stack)
  | .after last (.object before name :: stack), .comma =>
    some (.wantName ((name, last) :: before) stack)
  | .after last (.object before name :: stack), .endObject =>
    some (.after (.object ((name, last) :: before).reverse) stack)
  | _, _ => none

/-- The value that has been read, when nothing is open at the end. -/
def finish : Reader → Option Value
  | .after last [] => some last
  | _ => none

end Reader

namespace Value

/-- Reads a sequence of tokens as one value. -/
def ofTokens? (tokens : List Token) : Option Value := do
  (← tokens.foldlM Reader.step (.wantValue [])).finish

/-- Reads a text as one value. -/
def read (text : String) : Option Value := do
  ofTokens? (← Token.scan text.toList)

end Value

end Patchbay.Json
