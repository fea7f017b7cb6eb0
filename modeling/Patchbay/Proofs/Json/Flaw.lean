import Patchbay.Proofs.Json.Arrangement

/-!
# Objects that are refused

The reader passes over what it does not know, but not over what it knows and cannot use. A value is
flawed (`Schema.Flawed`) when somewhere in it an object gives a member more than once that the schema
uses there, or gives `null` for a field that may be left out but not be empty. A flaw is never read
around: it makes the whole value unreadable, whatever stands beside it and however deep it lies
(`Schema.decode_of_flawed`).
-/

namespace Patchbay

namespace Json

/-- A name stands more than once among the members. -/
def Repeats (name : String) (members : List (String × Value)) : Prop :=
  1 < (members.map (·.1)).count name

mutual

/-- Somewhere in the value, an object gives a member twice, or `null` for a field that cannot be
`null`. -/
def Schema.Flawed {α : Type} : Schema α → Value → Prop
  | .text, _ => False
  | .truth, _ => False
  | .number, _ => False
  | .integer _ _, _ => False
  | .choice _ _, _ => False
  | .optional schema, value => schema.Flawed value
  | .list schema, value => ∃ items, value = .array items ∧ ∃ item ∈ items, schema.Flawed item
  | .vector _ schema, value => ∃ items, value = .array items ∧ ∃ item ∈ items, schema.Flawed item
  | .keyMap schema, value =>
    ∃ members, value = .object members ∧ ∃ member ∈ members, schema.Flawed member.2
  | .record fields, value =>
    ∃ members named, value = .object members ∧ readNames? members = some named ∧
      fields.Flawed named
  | .adjacent tag content cases, value =>
    ∃ members named, value = .object members ∧ readNames? members = some named ∧
      (Repeats tag named ∨ Repeats content named ∨ ∃ head held name, (tag, head) ∈ named ∧
        (content, held) ∈ named ∧ head.text? = some name ∧ cases.Flawed name held)
  | .inlined tag shapes, value =>
    ∃ members named, value = .object members ∧ readNames? members = some named ∧
      (Repeats tag named ∨ ∃ head name, (tag, head) ∈ named ∧ head.text? = some name ∧
        shapes.Flawed name named)
  | .via schema _ _, value => schema.Flawed value

/-- A field is given twice, is `null` without being optional, or is flawed itself. -/
def Fields.Flawed {α : Type} : Fields α → List (String × Value) → Prop
  | .none, _ => False
  | .field name schema _ rest, members =>
    Repeats name members ∨
      (∃ value, (name, value) ∈ members ∧
        (schema.neverNull = true ∧ value = .null ∨ schema.Flawed value)) ∨
      rest.Flawed members

/-- The content of the case with a name is flawed. -/
def Cases.Flawed {α : Type} : Cases α → String → Value → Prop
  | .none, _, _ => False
  | .bare name rest, given, held => name ≠ given ∧ rest.Flawed given held
  | .carrying name schema rest, given, held =>
    if name = given then schema.Flawed held else rest.Flawed given held

/-- A field of the shape with a name is flawed. -/
def Shapes.Flawed {α : Type} : Shapes α → String → List (String × Value) → Prop
  | .none, _, _ => False
  | .shape name fields rest, given, members =>
    if name = given then fields.Flawed members else rest.Flawed given members

end

/-! ## Members -/

theorem soleMember?_of_repeats {name : String} {members : List (String × Value)}
    (h : Repeats name members) : soleMember? name members = none := by
  have hlength : (members.filter (·.1 == name)).length = (members.map (·.1)).count name := by
    rw [← List.countP_eq_length_filter, List.count, List.countP_map]
    rfl
  unfold Repeats at h
  rw [← hlength] at h
  unfold soleMember?
  generalize members.filter (·.1 == name) = found at h
  match found, h with
  | [_], h => exact absurd h (Nat.lt_irrefl 1)
  | _ :: _ :: _, _ => rfl

/-- A member is found by its name, unless the name is refused. -/
theorem soleMember?_of_mem {name : String} {value : Value} {members : List (String × Value)}
    (h : (name, value) ∈ members) :
    soleMember? name members = none ∨ soleMember? name members = some (some value) := by
  have hmem : (name, value) ∈ members.filter (·.1 == name) := List.mem_filter.2 ⟨h, by simp⟩
  unfold soleMember?
  generalize members.filter (·.1 == name) = found at hmem
  match found, hmem with
  | [member], hmem =>
    obtain rfl := List.mem_singleton.1 hmem
    exact .inr rfl
  | _ :: _ :: _, _ => exact .inl rfl

theorem mapM_eq_none_of_mem {α β : Type} {f : α → Option β} {items : List α} {item : α}
    (hmem : item ∈ items) (h : f item = none) : items.mapM f = none := by
  cases hread : items.mapM f with
  | none => rfl
  | some images =>
    have hsome : ∀ item ∈ items, f item ≠ none :=
      forall_mem_of_forall₂ (mapM_eq_some_iff.1 hread).flip fun _ _ hitem => by simp [hitem]
    exact absurd h (hsome item hmem)

/-! ## Refusal -/

theorem Schema.not_flawed_null {α : Type} : ∀ (schema : Schema α), ¬ schema.Flawed .null
  | .optional schema => schema.not_flawed_null
  | .via schema _ _ => schema.not_flawed_null
  | .text => id
  | .truth => id
  | .number => id
  | .integer _ _ => id
  | .choice _ _ => id
  | .list _ => by rintro ⟨_, h, _⟩; cases h
  | .vector _ _ => by rintro ⟨_, h, _⟩; cases h
  | .keyMap _ => by rintro ⟨_, h, _⟩; cases h
  | .record _ => by rintro ⟨_, _, h, _⟩; cases h
  | .adjacent _ _ _ => by rintro ⟨_, _, h, _⟩; cases h
  | .inlined _ _ => by rintro ⟨_, _, h, _⟩; cases h

mutual

/-- A flawed value is not read, wherever it stands. -/
theorem Schema.decode_of_flawed {α : Type} : ∀ (schema : Schema α) (place : Place) {value : Value},
    schema.Flawed value → schema.decode place value = none
  | .optional schema, place, value, h => by
    have hnone := schema.decode_of_flawed place h
    cases value with
    | null => exact absurd h schema.not_flawed_null
    | _ => simp [Schema.decode, hnone]
  | .list schema, place, value, h => by
    obtain ⟨items, rfl, item, hmem, hitem⟩ := h
    exact mapM_eq_none_of_mem hmem (schema.decode_of_flawed place.inner hitem)
  | .vector _ schema, place, value, h => by
    obtain ⟨items, rfl, item, hmem, hitem⟩ := h
    have hnone : items.mapM (fun item => schema.decode place.inner item) = none :=
      mapM_eq_none_of_mem hmem (schema.decode_of_flawed place.inner hitem)
    simp [Schema.decode, hnone]
  | .keyMap schema, place, value, h => by
    obtain ⟨members, rfl, member, hmem, hmember⟩ := h
    have hnone := schema.decode_of_flawed place.inner hmember
    unfold Schema.decode
    dsimp only
    rw [mapM_eq_none_of_mem hmem (by simp [hnone])]
    rfl
  | .record fields, place, value, h => by
    obtain ⟨members, named, rfl, hread, hfields⟩ := h
    have hnone := fields.decode_of_flawed place.inner hfields
    simp [Schema.decode, hread, hnone]
  | .adjacent tag content cases, place, value, h => by
    obtain ⟨members, named, rfl, hread, hflaw⟩ := h
    simp only [Schema.decode, hread, Option.bind_eq_bind, Option.bind_some]
    rcases hflaw with htag | hcontent | ⟨head, held, name, htag, hcontent, hname, hcase⟩
    · simp [soleMember?_of_repeats htag]
    · simp [soleMember?_of_repeats hcontent]
    · have hnone := cases.decode_of_flawed place.inner hcase
      rcases soleMember?_of_mem htag with htag | htag <;>
        rcases soleMember?_of_mem hcontent with hcontent | hcontent <;>
        simp [htag, hcontent, nameOf?_of_text? hname, hnone]
  | .inlined tag shapes, place, value, h => by
    obtain ⟨members, named, rfl, hread, hflaw⟩ := h
    unfold Schema.decode
    split
    · simp only [hread, Option.bind_eq_bind, Option.bind_some]
      rcases hflaw with htag | ⟨head, name, htag, hname, hshape⟩
      · simp [soleMember?_of_repeats htag]
      · have hnone := shapes.decode_of_flawed place.innerOfChoice hshape
        rcases soleMember?_of_mem htag with htag | htag <;> simp [htag, hname, hnone]
    · rfl
  | .via schema make _, place, _, h =>
    congrArg (Option.map make) (schema.decode_of_flawed place h)

theorem Fields.decode_of_flawed {α : Type} :
    ∀ (fields : Fields α) (place : Place) {members : List (String × Value)},
      fields.Flawed members → fields.decode place members = none
  | .field name schema missing rest, place, members, h => by
    rcases h with hrepeats | ⟨value, hmem, hvalue⟩ | hrest
    · simp [Fields.decode, soleMember?_of_repeats hrepeats]
    · have hnone : schema.decode place value = none := by
        rcases hvalue with ⟨hnull, rfl⟩ | hflaw
        · exact schema.decode_null place hnull
        · exact schema.decode_of_flawed place hflaw
      rcases soleMember?_of_mem hmem with hsole | hsole <;> simp [Fields.decode, hsole, hnone]
    · have hnone := rest.decode_of_flawed place hrest
      unfold Fields.decode
      cases soleMember? name members with
      | none => rfl
      | some found => cases found <;> simp [hnone]

theorem Cases.decode_of_flawed {α : Type} :
    ∀ (cases : Cases α) (place : Place) {name : String} {held : Value},
      cases.Flawed name held → cases.decode place name (some held) = none
  | .bare name rest, place, given, held, h => by
    obtain ⟨hne, hrest⟩ := h
    simp [Cases.decode, hne, rest.decode_of_flawed place hrest]
  | .carrying name schema rest, place, given, held, h => by
    unfold Cases.Flawed at h
    unfold Cases.decode
    split at h
    · simp [*, schema.decode_of_flawed place h]
    · simp [*, rest.decode_of_flawed place h]

theorem Shapes.decode_of_flawed {α : Type} :
    ∀ (shapes : Shapes α) (place : Place) {name : String} {members : List (String × Value)},
      shapes.Flawed name members → shapes.decode place name members = none
  | .shape name fields rest, place, given, members, h => by
    unfold Shapes.Flawed at h
    unfold Shapes.decode
    split at h
    · simp [*, fields.decode_of_flawed place h]
    · simp [*, rest.decode_of_flawed place h]

end

end Json

end Patchbay
