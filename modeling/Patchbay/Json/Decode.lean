import Patchbay.Json.Schema
import Patchbay.Json.Whole

/-!
# Reading values by their schemas

Members may come in any order. A member with a name that the schema does not use is
passed over, one that it does use may not be repeated. Instead of an object, an array may
hold the fields in order, and leave out fields at the end that need not be given. An
inlined choice has to be whole, with the members that are passed over, since it is read
before the shape is known; inside it, names may be given in more ways.
-/

namespace Patchbay.Json

/-- Where a value stands. -/
structure Place where
  /-- The number of arrays and objects around the value. -/
  depth : Nat
  /-- Whether the value is part of an inlined choice. -/
  inlined : Bool
  deriving DecidableEq, Repr

namespace Place

/-- The place of a value that stands alone. -/
def alone : Place :=
  { depth := 0, inlined := false }

/-- The place of what an array or object at a place holds. -/
def inner (place : Place) : Place :=
  { place with depth := place.depth + 1 }

/-- The place of what an inlined choice at a place holds. -/
def innerOfChoice (place : Place) : Place :=
  { depth := place.depth + 1, inlined := true }

end Place

/-- The members of an object with the texts of their names. -/
def readNames? (members : List (Literal × Value)) : Option (List (String × Value)) :=
  members.mapM fun member => member.1.text?.map (·, member.2)

/-- The value of the only member with a name, if there is one. More than one is refused. -/
def soleMember? (name : String) (members : List (String × Value)) : Option (Option Value) :=
  match members.filter (·.1 == name) with
  | [] => some none
  | [(_, value)] => some (some value)
  | _ => none

/-- Whether a value stands for no content. An empty object does inside an inlined choice. -/
def isNoContent (place : Place) : Value → Bool
  | .null => true
  | .object [] => place.inlined
  | _ => false

/-- The name that a value gives: a string, or an object with that name alone and no
content. -/
def nameOf? (place : Place) : Value → Option String
  | .string literal => literal.text?
  | .object [(name, content)] => if isNoContent place content then name.text? else none
  | _ => none

/-- The name that the first item of an array gives: a string, or inside an inlined choice
also the position of the name among all. -/
def headName? (place : Place) (names : List String) : Value → Option String
  | .string literal => literal.text?
  | .number numeral => do
    if !place.inlined then
      none
    let position ← numeral.int?
    if position < 0 then none else names[position.toNat]?
  | _ => none

/-- The key that a name stands for: an integer in range, in its plain decimal form and
without escapes. -/
def keyOfName? (name : Literal) : Option Key := do
  let n ← (← Numeral.read (← name.plain?)).int?
  if -0x80000000 ≤ n ∧ n ≤ 0x7fffffff then some (Int32.ofInt n) else none

mutual

/-- The value that is written as a JSON value at a place. -/
def Schema.decode {α : Type} (place : Place) : Schema α → Value → Option α
  | .text, value => value.text?
  | .truth, value =>
    match value with
    | .bool b => some b
    | _ => none
  | .number, value =>
    match value with
    | .number numeral => some numeral
    | _ => none
  | .integer low high, value =>
    match value with
    | .number numeral => do
      let n ← numeral.int?
      if h : low ≤ n ∧ n ≤ high then some ⟨n, h⟩ else none
    | _ => none
  | .choice all name, value => do
    let given ← nameOf? place value
    all.find? (name · == given)
  | .optional schema, value =>
    match value with
    | .null => some none
    | value => (schema.decode place value).map some
  | .list schema, value =>
    match value with
    | .array items => items.mapM fun item => schema.decode place.inner item
    | _ => none
  | .vector size schema, value =>
    match value with
    | .array items => do
      let items ← items.mapM fun item => schema.decode place.inner item
      if h : items.length = size then some ⟨items.toArray, h⟩ else none
    | _ => none
  | .keyMap schema, value =>
    match value with
    | .object members => do
      let entries ← members.mapM fun member => do
        return (← keyOfName? member.1, ← schema.decode place.inner member.2)
      return KeyMap.ofList entries
    | _ => none
  | .record fields, value =>
    match value with
    | .object members => do fields.decode place.inner (← readNames? members)
    | .array items => fields.decodeItems place.inner items
    | _ => none
  | .adjacent tag content cases, value =>
    match value with
    | .object members => do
      let members ← readNames? members
      let name ← nameOf? place.inner (← ← soleMember? tag members)
      cases.decode place.inner name (← soleMember? content members)
    | .array [head, content] => do
      let name ← headName? place.inner cases.names head
      cases.decode place.inner name (some content)
    | _ => none
  | .inlined tag shapes, value =>
    if value.isWhole place.depth then
      match value with
      | .object members => do
        let members ← readNames? members
        let name ← (← ← soleMember? tag members).text?
        shapes.decode place.innerOfChoice name members
      | .array (head :: items) => do
        shapes.decodeItems place.innerOfChoice (← head.text?) items
      | _ => none
    else none
  | .via schema make _, value => (schema.decode place value).map make

/-- The fields that the members of an object give. -/
def Fields.decode {α : Type} (place : Place) :
    Fields α → List (String × Value) → Option α
  | .none, _ => some ()
  | .field name schema missing rest, members => do
    let x ←
      match ← soleMember? name members with
      | some value => schema.decode place value
      | none => missing
    return (x, ← rest.decode place members)

/-- The fields that the items of an array give. -/
def Fields.decodeItems {α : Type} (place : Place) : Fields α → List Value → Option α
  | .none, items => if items.isEmpty then some () else none
  | .field _ schema missing rest, items => do
    let x ←
      match items with
      | item :: _ => schema.decode place item
      | [] => missing
    return (x, ← rest.decodeItems place items.tail)

/-- The case with a name, with its content. A case without content may have `null`. -/
def Cases.decode {α : Type} (place : Place) : Cases α → String → Option Value → Option α
  | .none, _, _ => none
  | .bare name rest, given, content =>
    if name = given then
      match content with
      | none => some (.inl ())
      | some .null => some (.inl ())
      | some _ => none
    else (rest.decode place given content).map .inr
  | .carrying name schema rest, given, content =>
    if name = given then do return .inl (← schema.decode place (← content))
    else (rest.decode place given content).map .inr

/-- The shape with a name, with the fields that the members of an object give. -/
def Shapes.decode {α : Type} (place : Place) :
    Shapes α → String → List (String × Value) → Option α
  | .none, _, _ => none
  | .shape name fields rest, given, members =>
    if name = given then (fields.decode place members).map .inl
    else (rest.decode place given members).map .inr

/-- The shape with a name, with the fields that the items of an array give. -/
def Shapes.decodeItems {α : Type} (place : Place) :
    Shapes α → String → List Value → Option α
  | .none, _, _ => none
  | .shape name fields rest, given, items =>
    if name = given then (fields.decodeItems place items).map .inl
    else (rest.decodeItems place given items).map .inr

end

/-- The value of type `α` that is written as a JSON value. -/
def decode? (α : Type) [HasSchema α] (value : Value) : Option α :=
  (schemaOf α).decode .alone value

end Patchbay.Json
