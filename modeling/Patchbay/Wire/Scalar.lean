import Patchbay.Json.Schema

/-!
# Forms of plain values

Words are written as integers within their range.
-/

namespace Patchbay

open Json

instance : HasSchema String := ⟨.text⟩

instance : HasSchema Bool := ⟨.truth⟩

instance : HasSchema Numeral := ⟨.number⟩

instance {α : Type} [HasSchema α] : HasSchema (Option α) := ⟨.optional (schemaOf α)⟩

instance {α : Type} [HasSchema α] : HasSchema (List α) := ⟨.list (schemaOf α)⟩

instance {α : Type} [HasSchema α] {size : Nat} : HasSchema (Vector α size) :=
  ⟨.vector size (schemaOf α)⟩

instance {α : Type} [HasSchema α] : HasSchema (KeyMap α) := ⟨.keyMap (schemaOf α)⟩

instance : HasSchema UInt8 where
  schema := .via (.integer 0 0xff) (fun n => UInt8.ofNat n.val.toNat)
    (fun word => ⟨word.toNat, by have := word.toNat_lt; omega⟩)

instance : HasSchema UInt32 where
  schema := .via (.integer 0 0xffffffff) (fun n => UInt32.ofNat n.val.toNat)
    (fun word => ⟨word.toNat, by have := word.toNat_lt; omega⟩)

instance : HasSchema UInt64 where
  schema := .via (.integer 0 0xffffffffffffffff) (fun n => UInt64.ofNat n.val.toNat)
    (fun word => ⟨word.toNat, by have := word.toNat_lt; omega⟩)

instance : HasSchema Int32 where
  schema := .via (.integer (-0x80000000) 0x7fffffff) (fun n => Int32.ofInt n.val)
    (fun word => ⟨word.toInt, by have := word.le_toInt; have := word.toInt_lt; omega⟩)

instance : HasSchema Int64 where
  schema := .via (.integer (-0x8000000000000000) 0x7fffffffffffffff) (fun n => Int64.ofInt n.val)
    (fun word => ⟨word.toInt, by have := word.le_toInt; have := word.toInt_lt; omega⟩)

/-- A field that has to be given. -/
abbrev Json.Fields.required {α β : Type} [HasSchema α] (name : String) (rest : Fields β) :
    Fields (α × β) :=
  .field name (schemaOf α) Option.none rest

/-- A field that has the value `missing` when it is left out. -/
abbrev Json.Fields.defaulted {α β : Type} [HasSchema α] (name : String) (missing : α)
    (rest : Fields β) : Fields (α × β) :=
  .field name (schemaOf α) (some missing) rest

/-- A case with content. -/
abbrev Json.Cases.case {α β : Type} [HasSchema α] (name : String) (rest : Cases β) :
    Cases (α ⊕ β) :=
  .carrying name (schemaOf α) rest

end Patchbay
