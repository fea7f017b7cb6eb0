import Patchbay.Proofs.Json.Arrangement
import Patchbay.Wire.Topology

/-!
# Topologies as texts

Every type that a topology is made of has a faithful form (`Faithful`), which follows for each of
them from the forms of its parts: what is left to say of a type is that the names of its fields and
cases differ, and that its values are made up again from their parts. A topology is therefore read
from each of its texts as it was written (`topology_texts_faithful`).
-/

namespace Patchbay

open Json

namespace Json

/-- Types whose form loses nothing. -/
class Faithful (α : Type) [HasSchema α] : Prop where
  faithful : (schemaOf α).Faithful

theorem faithfulForm (α : Type) [HasSchema α] [Faithful α] : (schemaOf α).Faithful :=
  Faithful.faithful

variable {α : Type} [HasSchema α] [Faithful α] {style : Style}

/-- A value is read from its text as it was written, in every style. -/
theorem read_write (hheight : (schemaOf α).height ≤ nestingLimit) (hstyle : style.Blank) (x : α) :
    Value.read ((encode x).write style) >>= decode? α = some x := by
  have htidy : (encode x).Tidy := (schemaOf α).tidy_encode x
  have hroom : 0 + (schemaOf α).height ≤ nestingLimit := by omega
  rw [htidy.read_write hstyle]
  exact (schemaOf α).decode_encode .alone (faithfulForm α) hroom x

/-! ## Plain values -/

instance : Faithful String := ⟨trivial⟩

instance : Faithful Bool := ⟨trivial⟩

instance : Faithful (List α) := ⟨faithfulForm α⟩

instance {size : Nat} : Faithful (Vector α size) := ⟨faithfulForm α⟩

instance : Faithful (KeyMap α) := ⟨faithfulForm α⟩

/-- An optional value is told from none when the value itself is never `null`. -/
theorem faithful_option (h : (schemaOf α).neverNull = true) : (schemaOf (Option α)).Faithful :=
  ⟨h, faithfulForm α⟩

instance : Faithful UInt8 := ⟨trivial, fun word => by simp⟩

instance : Faithful UInt32 := ⟨trivial, fun word => by simp⟩

instance : Faithful UInt64 := ⟨trivial, fun word => by simp⟩

instance : Faithful Int32 := ⟨trivial, fun word => by simp⟩

end Json

/-! ## Ports and port configs -/

instance : Faithful Sample := ⟨fun sample => by cases sample <;> rfl⟩

instance : Faithful Format where
  faithful :=
    ⟨⟨by decide, rfl,
        ⟨by decide, ⟨faithfulForm Sample, trivial⟩, by decide, ⟨faithfulForm String, trivial⟩,
          trivial⟩⟩,
      fun format => by cases format <;> rfl⟩

instance : Faithful Layout where
  faithful :=
    ⟨⟨by decide, by decide, faithfulForm UInt32, faithfulForm UInt32, faithfulForm UInt32, trivial⟩,
      fun layout => by cases layout <;> rfl⟩

instance : Faithful Flags where
  faithful :=
    ⟨⟨by decide, by decide, faithfulForm UInt32, faithfulForm UInt32, trivial⟩,
      fun ⟨direction, bits⟩ => by cases direction <;> rfl⟩

instance : Faithful DeviceKind := ⟨fun kind => by cases kind <;> rfl⟩

instance : Faithful DeviceType where
  faithful :=
    ⟨⟨by decide, faithfulForm DeviceKind, faithfulForm String, trivial⟩, fun _ => rfl⟩

instance : Faithful Address where
  faithful :=
    ⟨⟨by decide, by decide, faithfulForm String, faithfulForm (Vector UInt8 6),
        faithfulForm (List Int32), trivial⟩,
      fun address => by cases address <;> rfl⟩

instance : Faithful Device where
  faithful :=
    ⟨⟨by decide, faithfulForm DeviceType, faithfulForm Address, trivial⟩, fun _ => rfl⟩

instance : Faithful Role where
  faithful :=
    ⟨⟨by decide, rfl,
        ⟨by decide, trivial,
          by decide, ⟨faithfulForm Device, faithfulForm UInt32, trivial⟩,
          by decide, ⟨faithfulForm Int32, faithfulForm UInt32, faithfulForm UInt32, trivial⟩,
          trivial⟩⟩,
      fun role => by cases role <;> rfl⟩

instance : Faithful Profile where
  faithful :=
    ⟨⟨by decide, faithfulForm String, faithfulForm Format, faithfulForm (List Layout),
        faithfulForm (List UInt32), trivial⟩,
      fun _ => rfl⟩

instance : Faithful ExtraDescriptor where
  faithful := ⟨⟨by decide, faithfulForm String, faithfulForm (List UInt8), trivial⟩, fun _ => rfl⟩

instance : Faithful Port where
  faithful :=
    ⟨⟨by decide, faithfulForm Key, faithfulForm String, faithfulForm (List Profile),
        faithfulForm Flags, faithfulForm Role, faithfulForm (List ExtraDescriptor), trivial⟩,
      fun _ => rfl⟩

instance : Faithful Gain where
  faithful :=
    ⟨⟨by decide, faithfulForm Int32, faithfulForm (List Int32), faithfulForm Int32, trivial⟩,
      fun _ => rfl⟩

instance : Faithful Config where
  faithful :=
    ⟨⟨by decide, faithfulForm Key, faithfulForm Key, faithful_option rfl, faithful_option rfl,
        faithful_option rfl, faithful_option rfl, faithful_option rfl, faithfulForm Role, trivial⟩,
      fun _ => rfl⟩

/-! ## Topologies -/

instance : Faithful Patch where
  faithful :=
    ⟨⟨by decide, faithfulForm Key, faithfulForm (List Key), faithfulForm (List Key),
        faithfulForm Int32, faithfulForm (List Int32), trivial⟩,
      fun _ => rfl⟩

instance : Faithful Route where
  faithful :=
    ⟨⟨by decide, faithfulForm (List Key), faithfulForm Key, faithfulForm Bool, trivial⟩,
      fun _ => rfl⟩

instance : Faithful Limits where
  faithful :=
    ⟨⟨by decide, faithfulForm Int32, faithfulForm UInt64, faithfulForm Int32, trivial⟩,
      fun _ => rfl⟩

instance : Faithful Topology where
  faithful :=
    ⟨⟨by decide, faithfulForm String, faithfulForm (List Port), faithfulForm (List Config),
        faithfulForm (List Route), faithfulForm (List Patch),
        faithfulForm (KeyMap (List Profile)), faithfulForm Limits, trivial⟩,
      fun _ => rfl⟩

/-- The texts of a topology, on one line and on many. -/
def Topology.texts (topology : Topology) : List String :=
  [(encode topology).compact, (encode topology).indented]

/-- **Texts of topologies are faithful.** Every topology, well-formed or not, is read from its
compact and from its indented text as it was written, and so two topologies have a text in common
only if they are the same. -/
theorem topology_texts_faithful (topology other : Topology) :
    Value.read (encode topology).compact >>= decode? Topology = some topology ∧
      Value.read (encode topology).indented >>= decode? Topology = some topology ∧
      ((∃ text, text ∈ topology.texts ∧ text ∈ other.texts) ↔ topology = other) := by
  have hcompact : ∀ topology : Topology,
      Value.read (encode topology).compact >>= decode? Topology = some topology :=
    read_write (by decide) Style.blank_compact
  have hindented : ∀ topology : Topology,
      Value.read (encode topology).indented >>= decode? Topology = some topology :=
    read_write (by decide) Style.blank_indented
  have hread : ∀ topology : Topology, ∀ text ∈ topology.texts,
      Value.read text >>= decode? Topology = some topology := by
    intro topology
    unfold Topology.texts
    rw [List.forall_mem_cons, List.forall_mem_singleton]
    exact ⟨hcompact topology, hindented topology⟩
  refine ⟨hcompact topology, hindented topology, ?_, ?_⟩
  · rintro ⟨text, htext, hother⟩
    exact Option.some.inj ((hread topology text htext).symm.trans (hread other text hother))
  · rintro rfl
    exact ⟨(encode topology).compact, List.mem_cons_self, List.mem_cons_self⟩

end Patchbay
