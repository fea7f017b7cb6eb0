import Patchbay.Json.Schema

/-!
# Writing values by their schemas

Every field is written, in the order of the schema, also when it has the value that it
would have if it were left out.
-/

namespace Patchbay.Json

mutual

/-- The JSON value of `x`. -/
def Schema.encode {α : Type} : Schema α → α → Value
  | .text, x => .text x
  | .truth, x => .bool x
  | .number, x => .number x
  | .integer _ _, x => .int x.val
  | .choice _ name, x => .text (name x)
  | .optional schema, x =>
    match x with
    | none => .null
    | some x => schema.encode x
  | .list schema, x => .array (x.map fun item => schema.encode item)
  | .vector _ schema, x => .array (x.toList.map fun item => schema.encode item)
  | .keyMap schema, x =>
    .record (x.entries.map fun entry => (Key.text entry.1, schema.encode entry.2))
  | .record fields, x => .record (fields.encode x)
  | .adjacent tag content cases, x => .record (cases.encode tag content x)
  | .inlined tag shapes, x => .record (shapes.encode tag x)
  | .via schema _ parts, x => schema.encode (parts x)

/-- The members of a record. -/
def Fields.encode {α : Type} : Fields α → α → List (String × Value)
  | .none, _ => []
  | .field name schema _ rest, x => (name, schema.encode x.1) :: rest.encode x.2

/-- The members of a choice: the tag and the content. -/
def Cases.encode {α : Type} (tag content : String) : Cases α → α → List (String × Value)
  | .none, _ => []
  | .bare name rest, x =>
    match x with
    | .inl _ => [(tag, .text name)]
    | .inr x => rest.encode tag content x
  | .carrying name schema rest, x =>
    match x with
    | .inl x => [(tag, .text name), (content, schema.encode x)]
    | .inr x => rest.encode tag content x

/-- The members of a choice: the tag and the fields. -/
def Shapes.encode {α : Type} (tag : String) : Shapes α → α → List (String × Value)
  | .none, _ => []
  | .shape name fields rest, x =>
    match x with
    | .inl x => (tag, .text name) :: fields.encode x
    | .inr x => rest.encode tag x

end

/-- The JSON value of `x`. -/
def encode {α : Type} [HasSchema α] (x : α) : Value :=
  (schemaOf α).encode x

end Patchbay.Json
