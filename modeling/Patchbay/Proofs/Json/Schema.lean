import Patchbay.Json.Decode
import Patchbay.Json.Encode
import Patchbay.Proofs.Json.Text
import Patchbay.Proofs.KeyMap

/-!
# Properties of schemas

A schema is faithful (`Schema.Faithful`) when names that stand beside one another differ, an optional
value is never written as `null`, every value of a choice has a name of its own, and the values of a
type that borrows a form are made up again from their parts. What is written by any schema is tidy
(`Schema.tidy_encode`), and the members of an object are found by their names in whatever order they
come (`soleMember?_of_perm`).
-/

namespace Patchbay

namespace Json

/-! ## Properties of schemas -/

/-- The names of the fields. -/
def Fields.names {α : Type} : Fields α → List String
  | .none => []
  | .field name _ _ rest => name :: rest.names

/-- The names of the shapes. -/
def Shapes.names {α : Type} : Shapes α → List String
  | .none => []
  | .shape name _ rest => name :: rest.names

/-- Whether no value is written as `null`. -/
def Schema.neverNull {α : Type} : Schema α → Bool
  | .optional _ => false
  | .via schema _ _ => schema.neverNull
  | _ => true

mutual

/-- The greatest number of arrays and objects inside one another in the form of a value. -/
def Schema.height {α : Type} : Schema α → Nat
  | .text => 0
  | .truth => 0
  | .number => 0
  | .integer _ _ => 0
  | .choice _ _ => 0
  | .optional schema => schema.height
  | .list schema => schema.height + 1
  | .vector _ schema => schema.height + 1
  | .keyMap schema => schema.height + 1
  | .record fields => fields.height + 1
  | .adjacent _ _ cases => cases.height + 1
  | .inlined _ shapes => shapes.height + 1
  | .via schema _ _ => schema.height

/-- The greatest height of a field. -/
def Fields.height {α : Type} : Fields α → Nat
  | .none => 0
  | .field _ schema _ rest => max schema.height rest.height

/-- The greatest height of the content of a case. -/
def Cases.height {α : Type} : Cases α → Nat
  | .none => 0
  | .bare _ rest => rest.height
  | .carrying _ schema rest => max schema.height rest.height

/-- The greatest height of a field of a shape. -/
def Shapes.height {α : Type} : Shapes α → Nat
  | .none => 0
  | .shape _ fields rest => max fields.height rest.height

end

mutual

/-- Whether every number is an integer that fits in a word of 64 bits. -/
def Schema.bounded {α : Type} : Schema α → Bool
  | .text => true
  | .truth => true
  | .number => false
  | .integer low high => -0x8000000000000000 ≤ low && high ≤ 0xffffffffffffffff
  | .choice _ _ => true
  | .optional schema => schema.bounded
  | .list schema => schema.bounded
  | .vector _ schema => schema.bounded
  | .keyMap schema => schema.bounded
  | .record fields => fields.bounded
  | .adjacent _ _ cases => cases.bounded
  | .inlined _ shapes => shapes.bounded
  | .via schema _ _ => schema.bounded

/-- Whether every number in a field fits in a word. -/
def Fields.bounded {α : Type} : Fields α → Bool
  | .none => true
  | .field _ schema _ rest => schema.bounded && rest.bounded

/-- Whether every number in the content of a case fits in a word. -/
def Cases.bounded {α : Type} : Cases α → Bool
  | .none => true
  | .bare _ rest => rest.bounded
  | .carrying _ schema rest => schema.bounded && rest.bounded

/-- Whether every number in a field of a shape fits in a word. -/
def Shapes.bounded {α : Type} : Shapes α → Bool
  | .none => true
  | .shape _ fields rest => fields.bounded && rest.bounded

end

mutual

/-- Nothing is lost when a value is written. -/
def Schema.Faithful {α : Type} : Schema α → Prop
  | .text => True
  | .truth => True
  | .number => True
  | .integer _ _ => True
  | .choice all name => ∀ x, all.find? (name · == name x) = some x
  | .optional schema => schema.neverNull = true ∧ schema.Faithful
  | .list schema => schema.Faithful
  | .vector _ schema => schema.Faithful
  | .keyMap schema => schema.Faithful
  | .record fields => fields.names.Nodup ∧ fields.Faithful
  | .adjacent tag content cases => tag ≠ content ∧ cases.names.Nodup ∧ cases.Faithful
  | .inlined tag shapes => shapes.names.Nodup ∧ shapes.bounded = true ∧ shapes.Faithful tag
  | .via schema make parts => schema.Faithful ∧ ∀ x, make (parts x) = x

/-- Nothing is lost when a field is written. -/
def Fields.Faithful {α : Type} : Fields α → Prop
  | .none => True
  | .field _ schema _ rest => schema.Faithful ∧ rest.Faithful

/-- Nothing is lost when the content of a case is written. -/
def Cases.Faithful {α : Type} : Cases α → Prop
  | .none => True
  | .bare _ rest => rest.Faithful
  | .carrying _ schema rest => schema.Faithful ∧ rest.Faithful

/-- Nothing is lost when the fields of a shape are written beside the tag. -/
def Shapes.Faithful {α : Type} (tag : String) : Shapes α → Prop
  | .none => True
  | .shape _ fields rest =>
    (tag :: fields.names).Nodup ∧ fields.Faithful ∧ rest.Faithful tag

end

/-! ## What is written -/

theorem Value.tidy_record {members : List (String × Value)}
    (h : ∀ member ∈ members, member.2.Tidy) : (record members).Tidy := by
  refine .object ?_ ?_
  · intro member hmem
    obtain ⟨old, _, rfl⟩ := List.mem_map.1 hmem
    exact Literal.fits_ofText old.1
  · intro member hmem
    obtain ⟨old, hold, rfl⟩ := List.mem_map.1 hmem
    exact h old hold

theorem Value.tidy_text (text : String) : (Value.text text).Tidy :=
  .string (Literal.fits_ofText text)

mutual

/-- Whatever is written by a schema is tidy. -/
theorem Schema.tidy_encode {α : Type} : ∀ (schema : Schema α) (x : α), (schema.encode x).Tidy
  | .text, x => Value.tidy_text x
  | .truth, x => .bool x
  | .number, x => .number x
  | .integer _ _, x => .number (.ofInt x.val)
  | .choice _ name, x => Value.tidy_text (name x)
  | .optional _, none => .null
  | .optional schema, some x => schema.tidy_encode x
  | .list schema, x => by
    refine .array fun item hitem => ?_
    obtain ⟨y, _, rfl⟩ := List.mem_map.1 hitem
    exact schema.tidy_encode y
  | .vector _ schema, x => by
    refine .array fun item hitem => ?_
    obtain ⟨y, _, rfl⟩ := List.mem_map.1 hitem
    exact schema.tidy_encode y
  | .keyMap schema, x => by
    refine Value.tidy_record fun member hmember => ?_
    obtain ⟨entry, _, rfl⟩ := List.mem_map.1 hmember
    exact schema.tidy_encode entry.2
  | .record fields, x => Value.tidy_record (fields.tidy_encode x)
  | .adjacent tag content cases, x => Value.tidy_record (cases.tidy_encode tag content x)
  | .inlined tag shapes, x => Value.tidy_record (shapes.tidy_encode tag x)
  | .via schema _ parts, x => schema.tidy_encode (parts x)

theorem Fields.tidy_encode {α : Type} :
    ∀ (fields : Fields α) (x : α), ∀ member ∈ fields.encode x, member.2.Tidy
  | .none, _ => nofun
  | .field _ schema _ rest, x => by
    unfold Fields.encode
    rw [List.forall_mem_cons]
    exact ⟨schema.tidy_encode x.1, rest.tidy_encode x.2⟩

theorem Cases.tidy_encode {α : Type} (tag content : String) :
    ∀ (cases : Cases α) (x : α), ∀ member ∈ cases.encode tag content x, member.2.Tidy
  | .none, _ => nofun
  | .bare name _, .inl _ => List.forall_mem_singleton.2 (Value.tidy_text name)
  | .bare _ rest, .inr x => rest.tidy_encode tag content x
  | .carrying name schema _, .inl x =>
    List.forall_mem_cons.2
      ⟨Value.tidy_text name, List.forall_mem_singleton.2 (schema.tidy_encode x)⟩
  | .carrying _ _ rest, .inr x => rest.tidy_encode tag content x

theorem Shapes.tidy_encode {α : Type} (tag : String) :
    ∀ (shapes : Shapes α) (x : α), ∀ member ∈ shapes.encode tag x, member.2.Tidy
  | .none, _ => nofun
  | .shape name fields _, .inl x =>
    List.forall_mem_cons.2 ⟨Value.tidy_text name, fields.tidy_encode x⟩
  | .shape _ _ rest, .inr x => rest.tidy_encode tag x

end

/-! ## Members -/

/-- The names of members are read as they are written. -/
@[simp] theorem readNames?_ofText (members : List (String × Value)) :
    readNames? (members.map fun member => (.ofText member.1, member.2)) = some members := by
  unfold readNames?
  induction members with
  | nil => rfl
  | cons member rest ih => simp [ih]

@[simp] theorem Value.text?_text (text : String) : (Value.text text).text? = some text :=
  Literal.text?_ofText text

/-- A string gives its text as a name, wherever it stands. -/
theorem nameOf?_of_text? {place : Place} {value : Value} {name : String}
    (h : value.text? = some name) : nameOf? place value = some name := by
  cases value with
  | string literal => exact h
  | _ => cases h

theorem filter_of_notMem {name : String} {members : List (String × Value)}
    (h : name ∉ members.map (·.1)) : members.filter (·.1 == name) = [] := by
  rw [List.filter_eq_nil_iff]
  intro member hmem he
  exact h (List.mem_map.2 ⟨member, hmem, by simpa using he⟩)

theorem soleMember?_cons_self {name : String} {value : Value} {rest : List (String × Value)}
    (h : name ∉ rest.map (·.1)) : soleMember? name ((name, value) :: rest) = some (some value) := by
  unfold soleMember?
  rw [List.filter_cons_of_pos (by simp), filter_of_notMem h]

theorem soleMember?_cons_of_ne {name other : String} {value : Value}
    {rest : List (String × Value)} (h : other ≠ name) :
    soleMember? name ((other, value) :: rest) = soleMember? name rest := by
  unfold soleMember?
  rw [List.filter_cons_of_neg (by simpa using h)]

theorem soleMember?_of_notMem {name : String} {members : List (String × Value)}
    (h : name ∉ members.map (·.1)) : soleMember? name members = some none := by
  unfold soleMember?
  rw [filter_of_notMem h]

/-- The order of the members does not matter. -/
theorem soleMember?_of_perm {name : String} {members others : List (String × Value)}
    (h : members.Perm others) : soleMember? name members = soleMember? name others := by
  have hfilter := h.filter (·.1 == name)
  unfold soleMember?
  generalize members.filter (·.1 == name) = left at hfilter
  generalize others.filter (·.1 == name) = right at hfilter
  -- one member is where it was, and more than one are refused in any order
  match left, hfilter with
  | [], hperm => rw [hperm.nil_eq]
  | [member], hperm => rw [List.singleton_perm.1 hperm]
  | _ :: _ :: _, hperm =>
    match right, hperm.length_eq with
    | _ :: _ :: _, _ => rfl

/-- Members with other names do not matter. -/
theorem soleMember?_append {name : String} {members others : List (String × Value)}
    (h : name ∉ others.map (·.1)) :
    soleMember? name (members ++ others) = soleMember? name members := by
  unfold soleMember?
  rw [List.filter_append, filter_of_notMem h, List.append_nil]

/-! ## Names of keys -/

/-- What may belong to a word is not escaped. -/
theorem Mark.ofChar_of_isWordChar {c : Char} (h : isWordChar c = true) : ofChar c = .plain c := by
  have hcontrol : ∀ n < 0x20, isWordChar (Char.ofNat n) = false := by decide
  unfold ofChar
  split
  all_goals try (exact absurd h (by decide))
  split
  · rename_i hlow
    have hfalse := hcontrol c.toNat hlow
    rw [Char.ofNat_toNat, h] at hfalse
    cases hfalse
  · rfl

theorem Literal.plain?_ofText {text : String} (h : ∀ c ∈ text.toList, isWordChar c = true) :
    (ofText text).plain? = some text.toList := by
  unfold plain? ofText
  generalize text.toList = chars at *
  induction chars with
  | nil => rfl
  | cons c rest ih =>
    rw [List.forall_mem_cons] at h
    simp [Mark.ofChar_of_isWordChar h.1, ih h.2]

/-- The text of a key stands for the key. -/
theorem keyOfName?_text (key : Key) : keyOfName? (.ofText key.text) = some key := by
  have htext : key.text.toList = (Numeral.ofInt key.toInt).text := (Numeral.text_ofInt _).symm
  have hplain : (Literal.ofText key.text).plain? = some key.text.toList := by
    refine Literal.plain?_ofText ?_
    rw [htext]
    exact Numeral.isWordChar_text
  have hlow := key.le_toInt
  have hhigh := key.toInt_lt
  unfold keyOfName?
  simp only [hplain, htext, Numeral.read_text, Numeral.int?_ofInt, Option.bind_eq_bind,
    Option.bind_some]
  rw [if_pos (by omega), Int32.ofInt_toInt]

end Json

end Patchbay
