import Patchbay.Json.Value
import Patchbay.KeyMap

/-!
# Schemas

A `Schema α` describes the form that values of the type `α` have as JSON. Records are
objects, or arrays of their fields in order. A choice between forms is told by a tag: it
stands beside the content of the chosen form (`adjacent`), or among the fields of the
chosen form (`inlined`).
-/

namespace Patchbay.Json

mutual

/-- The JSON form of a type. -/
inductive Schema : Type → Type 1
  | text : Schema String
  | truth : Schema Bool
  | number : Schema Numeral
  /-- An integer within bounds, the bounds included. -/
  | integer (low high : Int) : Schema { n : Int // low ≤ n ∧ n ≤ high }
  /-- One of finitely many values, written by its name. -/
  | choice {α : Type} (all : List α) (name : α → String) : Schema α
  /-- A value or `null`. -/
  | optional {α : Type} (schema : Schema α) : Schema (Option α)
  | list {α : Type} (schema : Schema α) : Schema (List α)
  /-- A list of a fixed length. -/
  | vector {α : Type} (size : Nat) (schema : Schema α) : Schema (Vector α size)
  /-- An object whose names are keys. -/
  | keyMap {α : Type} (schema : Schema α) : Schema (KeyMap α)
  | record {α : Type} (fields : Fields α) : Schema α
  /-- Two members: the name of a case, and the content of the case if it has one. -/
  | adjacent {α : Type} (tag content : String) (cases : Cases α) : Schema α
  /-- The name of a shape and the fields of the shape. -/
  | inlined {α : Type} (tag : String) (shapes : Shapes α) : Schema α
  /-- The form of `α`, for a type `β` with the same values. -/
  | via {α β : Type} (schema : Schema α) (make : α → β) (parts : β → α) : Schema β

/-- The fields of a record. -/
inductive Fields : Type → Type 1
  | none : Fields Unit
  /-- A field, with the value that it has when it is left out, if it may be. -/
  | field {α β : Type} (name : String) (schema : Schema α) (missing : Option α)
      (rest : Fields β) : Fields (α × β)

/-- The cases of a choice whose content stands beside the tag. -/
inductive Cases : Type → Type 1
  | none : Cases Empty
  /-- A case without content. -/
  | bare {β : Type} (name : String) (rest : Cases β) : Cases (Unit ⊕ β)
  | carrying {α β : Type} (name : String) (schema : Schema α) (rest : Cases β) :
      Cases (α ⊕ β)

/-- The shapes of a choice whose fields stand beside the tag. -/
inductive Shapes : Type → Type 1
  | none : Shapes Empty
  | shape {α β : Type} (name : String) (fields : Fields α) (rest : Shapes β) :
      Shapes (α ⊕ β)

end

/-- The names of the cases. -/
def Cases.names {α : Type} : Cases α → List String
  | .none => []
  | .bare name rest => name :: rest.names
  | .carrying name _ rest => name :: rest.names

/-- Types whose values have a JSON form. -/
class HasSchema (α : Type) where
  /-- The JSON form. -/
  schema : Schema α

/-- The JSON form of a type. -/
abbrev schemaOf (α : Type) [HasSchema α] : Schema α :=
  HasSchema.schema

end Patchbay.Json
