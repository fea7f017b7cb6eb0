import Mathlib.Data.List.Forall2
import Patchbay.Proofs.Json.Schema

/-!
# Objects are read in every arrangement

The encoding of a value is one of many ways to write it (`Schema.Arranged`). The members of an object
may come in any order, a field may be left out if it has the value that it is then taken to have,
and there may be further members with names that are not used. All of them are read as the same
value (`Schema.decode_arranged`), and so in particular is the encoding (`Schema.decode_encode`).

What is inside an inlined choice is looked through before it is known what it is for, so there the
further members have to be whole (`Value.Passable`). That the other members are whole follows from
the schema (`Schema.isWhole_of_arranged`).
-/

namespace Patchbay

namespace Json

/-! ## Lists -/

theorem forall_mem_of_forall₂ {α β : Type} {related : α → β → Prop} {p : β → Prop} {items : List α}
    {images : List β} (h : List.Forall₂ related items images)
    (himage : ∀ x y, related x y → p y) : ∀ y ∈ images, p y := by
  induction h with
  | nil => nofun
  | cons hfirst _ ih => exact List.forall_mem_cons.2 ⟨himage _ _ hfirst, ih⟩

theorem mapM_eq_some_iff {α β : Type} {f : α → Option β} {items : List α} {images : List β} :
    items.mapM f = some images ↔ List.Forall₂ (fun x y => f x = some y) items images := by
  induction items generalizing images with
  | nil => simp [eq_comm]
  | cons item rest ih =>
    rw [List.forall₂_cons_left_iff]
    simp [Option.bind_eq_some_iff, ih, eq_comm (a := images)]

theorem forall₂_map {α β : Type} {related : α → β → Prop} {f : α → β}
    (h : ∀ x, related x (f x)) (items : List α) : List.Forall₂ related items (items.map f) :=
  List.forall₂_map_right_iff.2 (List.forall₂_same.2 fun x _ => h x)

theorem mapM_of_forall₂ {α β : Type} {f : β → Option α} {related : α → β → Prop} {items : List β}
    {images : List α} (h : List.Forall₂ related images items)
    (hf : ∀ x y, related x y → f y = some x) : items.mapM f = some images :=
  mapM_eq_some_iff.2 (h.flip.imp fun y x hrelated => hf x y hrelated)

/-! ## Arrangements -/

/-- The value is an object that shows the given members, in any order, and besides them only members
whose names are not used and whose values are admitted at their place. -/
def Value.Shows (admits : Place → Value → Prop) (place : Place) (used : List String)
    (given : List (String × Value)) (value : Value) : Prop :=
  ∃ members named added, value = .object members ∧ readNames? members = some named ∧
    named.Perm (given ++ added) ∧ ∀ member ∈ added, member.1 ∉ used ∧ admits place member.2

mutual

/-- The value is a way to write `x` at a place, with further members as far as their values are
admitted. -/
def Schema.Arranged (admits : Place → Value → Prop) {α : Type} (place : Place) :
    Schema α → α → Value → Prop
  | .text, x, value => value.text? = some x
  | .truth, x, value => value = .bool x
  | .number, x, value => value = .number x
  | .integer _ _, x, value => value = .int x.val
  | .choice _ name, x, value => value.text? = some (name x)
  | .optional schema, x, value =>
    match x with
    | none => value = .null
    | some x => schema.Arranged admits place x value
  | .list schema, x, value =>
    ∃ items, value = .array items ∧
      List.Forall₂ (fun y item => schema.Arranged admits place.inner y item) x items
  | .vector _ schema, x, value =>
    ∃ items, value = .array items ∧
      List.Forall₂ (fun y item => schema.Arranged admits place.inner y item) x.toList items
  | .keyMap schema, x, value =>
    ∃ members entries, value = .object members ∧ entries.Perm x.entries ∧
      List.Forall₂ (fun entry member => member.1 = .ofText (Key.text entry.1) ∧
        schema.Arranged admits place.inner entry.2 member.2) entries members
  | .record fields, x, value =>
    ∃ given, fields.Arranged admits place.inner x given ∧
      value.Shows admits place.inner fields.names given
  | .adjacent tag content cases, x, value =>
    ∃ given, cases.Arranged admits place.inner tag content x given ∧
      value.Shows admits place.inner [tag, content] given
  | .inlined tag shapes, x, value => shapes.Arranged admits place.innerOfChoice tag x value
  | .via schema _ parts, x, value => schema.Arranged admits place (parts x) value

/-- The members give the fields of `x`, in their order. A field may be left out if it has the value
that it has then. -/
def Fields.Arranged (admits : Place → Value → Prop) {α : Type} (place : Place) :
    Fields α → α → List (String × Value) → Prop
  | .none, _, given => given = []
  | .field name schema missing rest, x, given =>
    (missing = some x.1 ∧ rest.Arranged admits place x.2 given) ∨
      ∃ value others, given = (name, value) :: others ∧ schema.Arranged admits place x.1 value ∧
        rest.Arranged admits place x.2 others

/-- The members give the name and the content of the case of `x`. -/
def Cases.Arranged (admits : Place → Value → Prop) {α : Type} (place : Place)
    (tag content : String) : Cases α → α → List (String × Value) → Prop
  | .none, _, _ => False
  | .bare name rest, x, given =>
    match x with
    | .inl _ => ∃ head, given = [(tag, head)] ∧ head.text? = some name
    | .inr x => rest.Arranged admits place tag content x given
  | .carrying name schema rest, x, given =>
    match x with
    | .inl x => ∃ head value, given = [(tag, head), (content, value)] ∧ head.text? = some name ∧
        schema.Arranged admits place x value
    | .inr x => rest.Arranged admits place tag content x given

/-- The value is an object that gives the name of the shape of `x` and its fields. The fields of
other shapes are not used. -/
def Shapes.Arranged (admits : Place → Value → Prop) {α : Type} (place : Place) (tag : String) :
    Shapes α → α → Value → Prop
  | .none, _, _ => False
  | .shape name fields rest, x, value =>
    match x with
    | .inl x => ∃ head given, head.text? = some name ∧ fields.Arranged admits place x given ∧
        value.Shows admits place (tag :: fields.names) ((tag, head) :: given)
    | .inr x => rest.Arranged admits place tag x value

end

/-! ## Encodings -/

theorem Value.shows_of_perm {admits : Place → Value → Prop} {place : Place} {used : List String}
    {given members : List (String × Value)} (added : List (String × Value))
    (hperm : members.Perm (given ++ added))
    (hadded : ∀ member ∈ added, member.1 ∉ used ∧ admits place member.2) :
    (record members).Shows admits place used given :=
  ⟨_, members, added, rfl, readNames?_ofText members, hperm, hadded⟩

theorem Value.shows_record {admits : Place → Value → Prop} {place : Place} {used : List String}
    (given : List (String × Value)) : (record given).Shows admits place used given :=
  shows_of_perm [] (by rw [List.append_nil]) nofun

section Encode

variable {admits : Place → Value → Prop}

mutual

/-- The encoding of a value is a way to write it. -/
theorem Schema.arranged_encode {α : Type} : ∀ (schema : Schema α) (place : Place) (x : α),
    schema.Arranged admits place x (schema.encode x)
  | .text, _, x => Value.text?_text x
  | .truth, _, _ => rfl
  | .number, _, _ => rfl
  | .integer _ _, _, _ => rfl
  | .choice _ name, _, x => Value.text?_text (name x)
  | .optional _, _, none => rfl
  | .optional schema, place, some x => schema.arranged_encode place x
  | .list schema, place, x => ⟨_, rfl, forall₂_map (schema.arranged_encode place.inner) x⟩
  | .vector _ schema, place, x =>
    ⟨_, rfl, forall₂_map (schema.arranged_encode place.inner) x.toList⟩
  | .keyMap schema, place, x => by
    refine ⟨_, x.entries, rfl, .refl _, ?_⟩
    rw [List.map_map]
    exact forall₂_map (fun entry => ⟨rfl, schema.arranged_encode place.inner entry.2⟩) _
  | .record fields, place, x => ⟨_, fields.arranged_encode place.inner x, Value.shows_record _⟩
  | .adjacent tag content cases, place, x =>
    ⟨_, cases.arranged_encode place.inner tag content x, Value.shows_record _⟩
  | .inlined tag shapes, place, x => shapes.arranged_encode place.innerOfChoice tag x
  | .via schema _ parts, place, x => schema.arranged_encode place (parts x)

theorem Fields.arranged_encode {α : Type} : ∀ (fields : Fields α) (place : Place) (x : α),
    fields.Arranged admits place x (fields.encode x)
  | .none, _, _ => rfl
  | .field _ schema _ rest, place, x =>
    .inr ⟨_, _, rfl, schema.arranged_encode place x.1, rest.arranged_encode place x.2⟩

theorem Cases.arranged_encode {α : Type} :
    ∀ (cases : Cases α) (place : Place) (tag content : String) (x : α),
      cases.Arranged admits place tag content x (cases.encode tag content x)
  | .bare name _, _, _, _, .inl _ => ⟨_, rfl, Value.text?_text name⟩
  | .bare _ rest, place, tag, content, .inr x => rest.arranged_encode place tag content x
  | .carrying name schema _, place, _, _, .inl x =>
    ⟨_, _, rfl, Value.text?_text name, schema.arranged_encode place x⟩
  | .carrying _ _ rest, place, tag, content, .inr x => rest.arranged_encode place tag content x

theorem Shapes.arranged_encode {α : Type} :
    ∀ (shapes : Shapes α) (place : Place) (tag : String) (x : α),
      shapes.Arranged admits place tag x (.record (shapes.encode tag x))
  | .shape name fields _, place, _, .inl x =>
    ⟨_, _, Value.text?_text name, fields.arranged_encode place x, Value.shows_record _⟩
  | .shape _ _ rest, place, tag, .inr x => rest.arranged_encode place tag x

end

end Encode

/-! ## Wholeness -/

/-- A value that may be passed over at a place: inside an inlined choice it has to be whole. -/
def Value.Passable (place : Place) (value : Value) : Prop :=
  place.inlined = true → value.isWhole place.depth = true

namespace Value

theorem isWhole_of_text? {value : Value} {text : String} (h : value.text? = some text)
    (depth : Nat) : value.isWhole depth = true := by
  cases value with
  | string literal => exact Option.isSome_of_eq_some h
  | _ => cases h

theorem itemsWhole_iff {depth : Nat} {items : List Value} :
    itemsWhole depth items = true ↔ ∀ item ∈ items, item.isWhole depth = true := by
  induction items with
  | nil => simp [itemsWhole]
  | cons item rest ih => simp [itemsWhole, ih]

theorem membersWhole_iff {depth : Nat} {members : List (Literal × Value)} :
    membersWhole depth members = true ↔
      ∀ member ∈ members, member.1.text?.isSome = true ∧ member.2.isWhole depth = true := by
  induction members with
  | nil => simp [membersWhole]
  | cons member rest ih => simp [membersWhole, ih]

theorem isWhole_array {depth : Nat} {items : List Value} (hroom : depth < nestingLimit)
    (h : ∀ item ∈ items, item.isWhole (depth + 1) = true) :
    (Value.array items).isWhole depth = true := by
  simp [isWhole, hroom, itemsWhole_iff.2 h]

theorem membersWhole_of_readNames? {depth : Nat} {members : List (Literal × Value)}
    {named : List (String × Value)} (h : readNames? members = some named)
    (hwhole : ∀ member ∈ named, member.2.isWhole depth = true) :
    membersWhole depth members = true := by
  have hnames := (List.forall₂_and_left _ _).2 ⟨hwhole, (mapM_eq_some_iff.1 h).flip⟩
  refine membersWhole_iff.2 (forall_mem_of_forall₂ hnames ?_)
  rintro _ member ⟨hvalue, hname⟩
  obtain ⟨name, htext, rfl⟩ := Option.map_eq_some_iff.1 hname
  exact ⟨Option.isSome_of_eq_some htext, hvalue⟩

/-- An object inside an inlined choice is whole when the members that it shows are. -/
theorem Shows.isWhole {value : Value} {depth : Nat} {used : List String}
    {given : List (String × Value)} (h : value.Shows Passable ⟨depth + 1, true⟩ used given)
    (hroom : depth < nestingLimit) (hgiven : ∀ member ∈ given, member.2.isWhole (depth + 1) = true) :
    value.isWhole depth = true := by
  obtain ⟨members, named, added, rfl, hread, hperm, hadded⟩ := h
  have hnamed : ∀ member ∈ named, member.2.isWhole (depth + 1) = true := by
    intro member hmem
    rcases List.mem_append.1 (hperm.mem_iff.1 hmem) with hmem | hmem
    · exact hgiven member hmem
    · exact (hadded member hmem).2 rfl
  simp [Value.isWhole, hroom, membersWhole_of_readNames? hread hnamed]

end Value

mutual

/-- Inside an inlined choice, whatever is written by a schema with bounded numbers is whole where
there is room for its height. -/
theorem Schema.isWhole_of_arranged {α : Type} :
    ∀ (schema : Schema α) (depth : Nat), schema.bounded = true →
      depth + schema.height ≤ nestingLimit → ∀ {x : α} {value : Value},
        schema.Arranged Value.Passable ⟨depth, true⟩ x value → value.isWhole depth = true
  | .text, depth, _, _, _, _, h => Value.isWhole_of_text? h depth
  | .truth, _, _, _, _, _, h => by rw [h]; rfl
  | .integer low high, depth, hbounded, _, x, value, h => by
    simp only [Schema.bounded, Bool.and_eq_true, decide_eq_true_eq] at hbounded
    rw [h]
    exact Numeral.isFinite_ofInt (Int.le_trans hbounded.1 x.2.1) (Int.le_trans x.2.2 hbounded.2)
  | .choice _ _, depth, _, _, _, _, h => Value.isWhole_of_text? h depth
  | .optional _, _, _, _, none, _, h => by rw [h]; rfl
  | .optional schema, depth, hbounded, hheight, some _, _, h =>
    schema.isWhole_of_arranged depth hbounded hheight h
  | .list schema, depth, hbounded, hheight, x, value, h => by
    unfold Schema.height at hheight
    obtain ⟨items, rfl, hitems⟩ := h
    exact Value.isWhole_array (by omega) (forall_mem_of_forall₂ hitems fun _ _ hitem =>
      schema.isWhole_of_arranged (depth + 1) hbounded (by omega) hitem)
  | .vector _ schema, depth, hbounded, hheight, x, value, h => by
    unfold Schema.height at hheight
    obtain ⟨items, rfl, hitems⟩ := h
    exact Value.isWhole_array (by omega) (forall_mem_of_forall₂ hitems fun _ _ hitem =>
      schema.isWhole_of_arranged (depth + 1) hbounded (by omega) hitem)
  | .keyMap schema, depth, hbounded, hheight, x, value, h => by
    unfold Schema.height at hheight
    obtain ⟨members, entries, rfl, _, hmembers⟩ := h
    have hwhole : ∀ member ∈ members,
        member.1.text?.isSome = true ∧ member.2.isWhole (depth + 1) = true := by
      refine forall_mem_of_forall₂ hmembers fun entry member ⟨hname, hvalue⟩ => ⟨?_, ?_⟩
      · rw [hname, Literal.text?_ofText]
        rfl
      · exact schema.isWhole_of_arranged (depth + 1) hbounded (by omega) hvalue
    simp [Value.isWhole, Value.membersWhole_iff.2 hwhole]
    omega
  | .record fields, depth, hbounded, hheight, x, value, h => by
    unfold Schema.height at hheight
    obtain ⟨given, hgiven, hshows⟩ := h
    have hroom : depth < nestingLimit := by omega
    exact hshows.isWhole hroom
      (fields.isWhole_of_arranged (depth + 1) hbounded (by omega) hgiven)
  | .adjacent tag content cases, depth, hbounded, hheight, x, value, h => by
    unfold Schema.height at hheight
    obtain ⟨given, hgiven, hshows⟩ := h
    have hroom : depth < nestingLimit := by omega
    exact hshows.isWhole hroom
      (cases.isWhole_of_arranged tag content (depth + 1) hbounded (by omega) hgiven)
  | .inlined tag shapes, depth, hbounded, hheight, x, value, h => by
    unfold Schema.height at hheight
    exact shapes.isWhole_of_arranged tag depth hbounded (by omega) h
  | .via schema _ parts, depth, hbounded, hheight, x, value, h =>
    schema.isWhole_of_arranged depth hbounded hheight h

theorem Fields.isWhole_of_arranged {α : Type} :
    ∀ (fields : Fields α) (depth : Nat), fields.bounded = true →
      depth + fields.height ≤ nestingLimit → ∀ {x : α} {given : List (String × Value)},
        fields.Arranged Value.Passable ⟨depth, true⟩ x given →
        ∀ member ∈ given, member.2.isWhole depth = true
  | .none, _, _, _, _, _, rfl => nofun
  | .field name schema _ rest, depth, hbounded, hheight, x, given, h => by
    unfold Fields.height at hheight
    simp only [Fields.bounded, Bool.and_eq_true] at hbounded
    rcases h with ⟨_, hrest⟩ | ⟨value, others, rfl, hvalue, hrest⟩
    · exact rest.isWhole_of_arranged depth hbounded.2 (by omega) hrest
    · exact List.forall_mem_cons.2
        ⟨schema.isWhole_of_arranged depth hbounded.1 (by omega) hvalue,
          rest.isWhole_of_arranged depth hbounded.2 (by omega) hrest⟩

theorem Cases.isWhole_of_arranged {α : Type} (tag content : String) :
    ∀ (cases : Cases α) (depth : Nat), cases.bounded = true →
      depth + cases.height ≤ nestingLimit → ∀ {x : α} {given : List (String × Value)},
        cases.Arranged Value.Passable ⟨depth, true⟩ tag content x given →
        ∀ member ∈ given, member.2.isWhole depth = true
  | .bare _ _, depth, _, _, .inl _, _, h => by
    obtain ⟨head, rfl, hhead⟩ := h
    exact List.forall_mem_singleton.2 (Value.isWhole_of_text? hhead depth)
  | .bare _ rest, depth, hbounded, hheight, .inr _, _, h =>
    rest.isWhole_of_arranged tag content depth hbounded hheight h
  | .carrying _ schema rest, depth, hbounded, hheight, .inl x, given, h => by
    unfold Cases.height at hheight
    simp only [Cases.bounded, Bool.and_eq_true] at hbounded
    obtain ⟨head, value, rfl, hhead, hvalue⟩ := h
    have hwhole := schema.isWhole_of_arranged depth hbounded.1 (by omega) hvalue
    exact List.forall_mem_cons.2
      ⟨Value.isWhole_of_text? hhead depth, List.forall_mem_singleton.2 hwhole⟩
  | .carrying _ _ rest, depth, hbounded, hheight, .inr _, _, h => by
    unfold Cases.height at hheight
    simp only [Cases.bounded, Bool.and_eq_true] at hbounded
    exact rest.isWhole_of_arranged tag content depth hbounded.2 (by omega) h

theorem Shapes.isWhole_of_arranged {α : Type} (tag : String) :
    ∀ (shapes : Shapes α) (depth : Nat), shapes.bounded = true →
      depth + shapes.height < nestingLimit → ∀ {x : α} {value : Value},
        shapes.Arranged Value.Passable ⟨depth + 1, true⟩ tag x value → value.isWhole depth = true
  | .shape _ fields rest, depth, hbounded, hheight, .inl x, value, h => by
    unfold Shapes.height at hheight
    simp only [Shapes.bounded, Bool.and_eq_true] at hbounded
    obtain ⟨head, given, hhead, hgiven, hshows⟩ := h
    have hfields := fields.isWhole_of_arranged (depth + 1) hbounded.1 (by omega) hgiven
    exact hshows.isWhole (by omega)
      (List.forall_mem_cons.2 ⟨Value.isWhole_of_text? hhead (depth + 1), hfields⟩)
  | .shape _ _ rest, depth, hbounded, hheight, .inr _, _, h => by
    unfold Shapes.height at hheight
    simp only [Shapes.bounded, Bool.and_eq_true] at hbounded
    exact rest.isWhole_of_arranged tag depth hbounded.2 (by omega) h

end

/-! ## Reading -/

theorem Place.room_inner {place : Place} {height : Nat}
    (h : place.depth + (height + 1) ≤ nestingLimit) : place.inner.depth + height ≤ nestingLimit := by
  simp only [inner]
  omega

theorem Place.room_innerOfChoice {place : Place} {height : Nat}
    (h : place.depth + (height + 1) ≤ nestingLimit) :
    place.innerOfChoice.depth + height ≤ nestingLimit := by
  simp only [innerOfChoice]
  omega

/-- A member with a name that is used is found as it is among the given members. -/
theorem Value.Shows.exists_members {admits : Place → Value → Prop} {place : Place}
    {used : List String} {given : List (String × Value)} {value : Value}
    (h : value.Shows admits place used given) :
    ∃ members named, value = .object members ∧ readNames? members = some named ∧
      ∀ name ∈ used, soleMember? name named = soleMember? name given := by
  obtain ⟨members, named, added, hvalue, hread, hperm, hadded⟩ := h
  refine ⟨members, named, hvalue, hread, fun name hname => ?_⟩
  rw [soleMember?_of_perm hperm, soleMember?_append]
  intro hmem
  obtain ⟨member, hmember, rfl⟩ := List.mem_map.1 hmem
  exact (hadded member hmember).1 hname

/-- The names of members that give fields are names of the fields, in their order. -/
theorem Fields.names_of_arranged {admits : Place → Value → Prop} {place : Place} {α : Type} :
    ∀ (fields : Fields α) {x : α} {given : List (String × Value)},
      fields.Arranged admits place x given → (given.map (·.1)).Sublist fields.names
  | .none, _, _, rfl => .slnil
  | .field _ _ _ rest, _, _, h => by
    rcases h with ⟨_, hrest⟩ | ⟨value, others, rfl, _, hrest⟩
    · exact (rest.names_of_arranged hrest).cons _
    · exact (rest.names_of_arranged hrest).cons_cons _

/-- A schema that writes no value as `null` does not read it. -/
theorem Schema.decode_null {α : Type} : ∀ (schema : Schema α) (place : Place),
    schema.neverNull = true → schema.decode place .null = none
  | .optional _, _, h => absurd h Bool.false_ne_true
  | .via schema make _, place, h => congrArg (Option.map make) (schema.decode_null place h)
  | .inlined _ _, _, _ => ite_self _
  | .text, _, _ => rfl
  | .truth, _, _ => rfl
  | .number, _, _ => rfl
  | .integer _ _, _, _ => rfl
  | .choice _ _, _, _ => rfl
  | .list _, _, _ => rfl
  | .vector _ _, _, _ => rfl
  | .keyMap _, _, _ => rfl
  | .record _, _, _ => rfl
  | .adjacent _ _ _, _, _ => rfl

mutual

/-- However a value is written by a faithful schema, it is read as that value, wherever there is
room for the height of the schema. -/
theorem Schema.decode_arranged {α : Type} :
    ∀ (schema : Schema α) (place : Place), schema.Faithful →
      place.depth + schema.height ≤ nestingLimit → ∀ {x : α} {value : Value},
        schema.Arranged Value.Passable place x value → schema.decode place value = some x
  | .text, _, _, _, _, _, h => h
  | .truth, _, _, _, _, _, h => by rw [h]; rfl
  | .number, _, _, _, _, _, h => by rw [h]; rfl
  | .integer low high, _, _, _, ⟨n, hn⟩, value, h => by
    rw [show value = .int n from h]
    simp [Schema.decode, Value.int, Numeral.int?_ofInt, hn]
  | .choice all name, place, hfaithful, _, x, value, h => by
    have hname : nameOf? place value = some (name x) := nameOf?_of_text? h
    simp [Schema.decode, hname, hfaithful x]
  | .optional _, _, _, _, none, _, h => by rw [h]; rfl
  | .optional schema, place, hfaithful, hheight, some x, value, h => by
    have hvalue := schema.decode_arranged place hfaithful.2 hheight h
    have hnull := schema.decode_null place hfaithful.1
    cases value with
    | null => cases hnull.symm.trans hvalue
    | _ => simp [Schema.decode, hvalue]
  | .list schema, place, hfaithful, hheight, x, value, h => by
    obtain ⟨items, rfl, hitems⟩ := h
    exact mapM_of_forall₂ hitems fun _ _ hitem =>
      schema.decode_arranged place.inner hfaithful (Place.room_inner hheight) hitem
  | .vector size schema, place, hfaithful, hheight, x, value, h => by
    obtain ⟨items, rfl, hitems⟩ := h
    have hread := mapM_of_forall₂ hitems fun _ _ hitem =>
      schema.decode_arranged place.inner hfaithful (Place.room_inner hheight) hitem
    obtain ⟨given, hsize⟩ := x
    simp [Schema.decode, hread, hsize]
  | .keyMap schema, place, hfaithful, hheight, x, value, h => by
    obtain ⟨members, entries, rfl, hperm, hmembers⟩ := h
    have hread : members.mapM (fun member => do
        return (← keyOfName? member.1, ← schema.decode place.inner member.2)) = some entries := by
      refine mapM_of_forall₂ hmembers fun entry member ⟨hname, hvalue⟩ => ?_
      have hitem := schema.decode_arranged place.inner hfaithful
        (Place.room_inner hheight) hvalue
      simp [hname, keyOfName?_text, hitem]
    unfold Schema.decode
    dsimp only
    rw [hread]
    exact congrArg some (KeyMap.ofList_of_perm hperm)
  | .record fields, place, hfaithful, hheight, x, value, h => by
    obtain ⟨given, hgiven, hshows⟩ := h
    obtain ⟨members, named, rfl, hread, hsole⟩ := hshows.exists_members
    have hfields := fields.decode_arranged place.inner hfaithful.2 hfaithful.1
      (Place.room_inner hheight) hgiven hsole
    simp [Schema.decode, hread, hfields]
  | .adjacent tag content cases, place, hfaithful, hheight, x, value, h => by
    obtain ⟨given, hgiven, hshows⟩ := h
    obtain ⟨members, named, rfl, hread, hsole⟩ := hshows.exists_members
    obtain ⟨name, _, head, held, rfl, hhead, hdecode⟩ :=
      cases.decode_arranged tag content place.inner hfaithful.2.2 hfaithful.2.1
        (Place.room_inner hheight) hgiven
    have htag : soleMember? tag named = some (some head) := by
      rw [hsole tag (by simp), soleMember?_cons_self]
      cases held <;> simp [hfaithful.1]
    have hcontent : soleMember? content named = some held := by
      rw [hsole content (by simp), soleMember?_cons_of_ne hfaithful.1]
      cases held <;> simp [soleMember?]
    simp only [Schema.decode, hread, htag, hcontent, nameOf?_of_text? hhead, Option.bind_eq_bind,
      Option.bind_some]
    exact hdecode
  | .inlined tag shapes, place, hfaithful, hheight, x, value, h => by
    -- the reader looks through the whole object for its tag before it reads any member
    have hwhole : value.isWhole place.depth = true :=
      shapes.isWhole_of_arranged tag place.depth hfaithful.2.1 hheight h
    obtain ⟨name, _, members, named, head, rfl, hread, htag, hhead, hdecode⟩ :=
      shapes.decode_arranged tag place.innerOfChoice hfaithful.2.2 hfaithful.1
        (Place.room_innerOfChoice hheight) h
    unfold Schema.decode
    rw [if_pos hwhole]
    simp only [hread, htag, hhead, Option.bind_eq_bind, Option.bind_some]
    exact hdecode
  | .via schema make parts, place, hfaithful, hheight, x, value, h => by
    have hparts := schema.decode_arranged place hfaithful.1 hheight h
    simp [Schema.decode, hparts, hfaithful.2 x]

/-- The fields are read from members among which each name of a field is found as it is among the
given members. -/
theorem Fields.decode_arranged {α : Type} :
    ∀ (fields : Fields α) (place : Place), fields.Faithful → fields.names.Nodup →
      place.depth + fields.height ≤ nestingLimit →
        ∀ {x : α} {given members : List (String × Value)},
          fields.Arranged Value.Passable place x given →
          (∀ name ∈ fields.names, soleMember? name members = soleMember? name given) →
          fields.decode place members = some x
  | .none, _, _, _, _, _, _, _, _, _ => rfl
  | .field name schema missing rest, place, hfaithful, hnodup, hheight, x, given, members, h,
      hsole => by
    unfold Fields.height at hheight
    obtain ⟨hname, hnodup⟩ := List.nodup_cons.1 hnodup
    have hfirst : soleMember? name members = soleMember? name given := hsole name List.mem_cons_self
    rcases h with ⟨hmissing, hrest⟩ | ⟨value, others, rfl, hvalue, hrest⟩
    · -- the field has been left out
      have habsent : name ∉ given.map (·.1) :=
        fun hmem => hname ((rest.names_of_arranged hrest).subset hmem)
      have hothers := rest.decode_arranged place hfaithful.2 hnodup (by omega) hrest
        fun other hother => hsole other (.tail _ hother)
      simp [Fields.decode, hfirst, soleMember?_of_notMem habsent, hmissing, hothers]
    · have habsent : name ∉ others.map (·.1) :=
        fun hmem => hname ((rest.names_of_arranged hrest).subset hmem)
      have hvalue := schema.decode_arranged place hfaithful.1 (by omega) hvalue
      have hothers := rest.decode_arranged place hfaithful.2 hnodup (by omega) hrest
        fun other hother => by
          have hne : name ≠ other := fun he => hname (he ▸ hother)
          rw [hsole other (.tail _ hother), soleMember?_cons_of_ne hne]
      simp [Fields.decode, hfirst, soleMember?_cons_self habsent, hvalue, hothers]

/-- The members give the name of a case, and the content that it is read from. -/
theorem Cases.decode_arranged {α : Type} (tag content : String) :
    ∀ (cases : Cases α) (place : Place), cases.Faithful → cases.names.Nodup →
      place.depth + cases.height ≤ nestingLimit → ∀ {x : α} {given : List (String × Value)},
        cases.Arranged Value.Passable place tag content x given →
        ∃ name ∈ cases.names, ∃ head, ∃ held : Option Value,
          given = (tag, head) :: held.toList.map (content, ·) ∧ head.text? = some name ∧
            cases.decode place name held = some x
  | .bare name rest, place, hfaithful, hnodup, hheight, .inl (), given, h => by
    obtain ⟨head, rfl, hhead⟩ := h
    exact ⟨name, List.mem_cons_self, head, none, rfl, hhead, by simp [Cases.decode]⟩
  | .bare name rest, place, hfaithful, hnodup, hheight, .inr x, given, h => by
    obtain ⟨hname, hnodup⟩ := List.nodup_cons.1 hnodup
    obtain ⟨other, hmem, head, held, hgiven, hhead, hdecode⟩ :=
      rest.decode_arranged tag content place hfaithful hnodup hheight h
    have hne : name ≠ other := fun he => hname (he ▸ hmem)
    exact ⟨other, .tail _ hmem, head, held, hgiven, hhead, by simp [Cases.decode, hne, hdecode]⟩
  | .carrying name schema rest, place, hfaithful, hnodup, hheight, .inl x, given, h => by
    unfold Cases.height at hheight
    obtain ⟨head, value, rfl, hhead, hvalue⟩ := h
    have hvalue := schema.decode_arranged place hfaithful.1 (by omega) hvalue
    exact ⟨name, List.mem_cons_self, head, some value, rfl, hhead, by simp [Cases.decode, hvalue]⟩
  | .carrying name schema rest, place, hfaithful, hnodup, hheight, .inr x, given, h => by
    unfold Cases.height at hheight
    obtain ⟨hname, hnodup⟩ := List.nodup_cons.1 hnodup
    obtain ⟨other, hmem, head, held, hgiven, hhead, hdecode⟩ :=
      rest.decode_arranged tag content place hfaithful.2 hnodup (by omega) h
    have hne : name ≠ other := fun he => hname (he ▸ hmem)
    exact ⟨other, .tail _ hmem, head, held, hgiven, hhead, by simp [Cases.decode, hne, hdecode]⟩

/-- The object gives the name of a shape once, and the fields that the shape is read from. -/
theorem Shapes.decode_arranged {α : Type} (tag : String) :
    ∀ (shapes : Shapes α) (place : Place), shapes.Faithful tag → shapes.names.Nodup →
      place.depth + shapes.height ≤ nestingLimit → ∀ {x : α} {value : Value},
        shapes.Arranged Value.Passable place tag x value →
        ∃ name ∈ shapes.names, ∃ members named head, value = .object members ∧
          readNames? members = some named ∧ soleMember? tag named = some (some head) ∧
            head.text? = some name ∧ shapes.decode place name named = some x
  | .shape name fields rest, place, hfaithful, hnodup, hheight, .inl x, value, h => by
    unfold Shapes.height at hheight
    obtain ⟨head, given, hhead, hgiven, hshows⟩ := h
    obtain ⟨members, named, rfl, hread, hsole⟩ := hshows.exists_members
    obtain ⟨htag, hfieldNames⟩ := List.nodup_cons.1 hfaithful.1
    have habsent : tag ∉ given.map (·.1) :=
      fun hmem => htag ((fields.names_of_arranged hgiven).subset hmem)
    have hfields := fields.decode_arranged place hfaithful.2.1 hfieldNames (by omega) hgiven
      fun other hother => by
        have hne : tag ≠ other := fun he => htag (he ▸ hother)
        rw [hsole other (.tail _ hother), soleMember?_cons_of_ne hne]
    refine ⟨name, List.mem_cons_self, members, named, head, rfl, hread, ?_, hhead, ?_⟩
    · rw [hsole tag List.mem_cons_self, soleMember?_cons_self habsent]
    · simp [Shapes.decode, hfields]
  | .shape name fields rest, place, hfaithful, hnodup, hheight, .inr x, value, h => by
    unfold Shapes.height at hheight
    obtain ⟨hname, hnodup⟩ := List.nodup_cons.1 hnodup
    obtain ⟨other, hmem, members, named, head, hvalue, hread, htag, hhead, hdecode⟩ :=
      rest.decode_arranged tag place hfaithful.2.2 hnodup (by omega) h
    have hne : name ≠ other := fun he => hname (he ▸ hmem)
    exact ⟨other, .tail _ hmem, members, named, head, hvalue, hread, htag, hhead,
      by simp [Shapes.decode, hne, hdecode]⟩

end

/-- What is written by a faithful schema is read back, wherever there is room for its height. -/
theorem Schema.decode_encode {α : Type} (schema : Schema α) (place : Place)
    (hfaithful : schema.Faithful) (hheight : place.depth + schema.height ≤ nestingLimit) (x : α) :
    schema.decode place (schema.encode x) = some x :=
  schema.decode_arranged place hfaithful hheight (schema.arranged_encode place x)

end Json

end Patchbay
