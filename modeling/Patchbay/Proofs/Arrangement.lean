import Patchbay.Proofs.Json.Flaw
import Patchbay.Proofs.Wire

/-!
# Parts of topologies are read in every arrangement

The types of records and tagged choices that a topology is made of (`Part`) all have faithful forms
with room for their height. So a value of any of them is read from its encoding in every
arrangement, and no value with a flaw in it is read (`Part.reads_every_arrangement`).

A further member may hold anything, except inside a format or a role. Those are inlined choices,
which are looked through before they are understood: a further member that nests too deep for that
makes even a format unreadable (`Part.not_reads_unlimited`).
-/

namespace Patchbay

open Json

/-- The types of records and tagged choices that a topology is made of. -/
inductive Part
  | format
  | layout
  | flags
  | deviceType
  | address
  | device
  | role
  | profile
  | extraDescriptor
  | port
  | gain
  | config
  | patch
  | route
  | limits
  | topology
  deriving DecidableEq, Repr

namespace Part

/-- The values of a part. -/
def Carrier : Part → Type
  | .format => Format
  | .layout => Layout
  | .flags => Flags
  | .deviceType => DeviceType
  | .address => Address
  | .device => Device
  | .role => Role
  | .profile => Profile
  | .extraDescriptor => ExtraDescriptor
  | .port => Port
  | .gain => Gain
  | .config => Config
  | .patch => Patch
  | .route => Route
  | .limits => Limits
  | .topology => Topology

instance : (part : Part) → HasSchema part.Carrier
  | .format => inferInstanceAs (HasSchema Format)
  | .layout => inferInstanceAs (HasSchema Layout)
  | .flags => inferInstanceAs (HasSchema Flags)
  | .deviceType => inferInstanceAs (HasSchema DeviceType)
  | .address => inferInstanceAs (HasSchema Address)
  | .device => inferInstanceAs (HasSchema Device)
  | .role => inferInstanceAs (HasSchema Role)
  | .profile => inferInstanceAs (HasSchema Profile)
  | .extraDescriptor => inferInstanceAs (HasSchema ExtraDescriptor)
  | .port => inferInstanceAs (HasSchema Port)
  | .gain => inferInstanceAs (HasSchema Gain)
  | .config => inferInstanceAs (HasSchema Config)
  | .patch => inferInstanceAs (HasSchema Patch)
  | .route => inferInstanceAs (HasSchema Route)
  | .limits => inferInstanceAs (HasSchema Limits)
  | .topology => inferInstanceAs (HasSchema Topology)

/-- The form of the values of a part. -/
def schema (part : Part) : Schema part.Carrier :=
  schemaOf part.Carrier

/-- The value of a part that is written as a JSON value. -/
def read? (part : Part) (value : Value) : Option part.Carrier :=
  decode? part.Carrier value

theorem faithful : ∀ part : Part, part.schema.Faithful
  | .format => faithfulForm Format
  | .layout => faithfulForm Layout
  | .flags => faithfulForm Flags
  | .deviceType => faithfulForm DeviceType
  | .address => faithfulForm Address
  | .device => faithfulForm Device
  | .role => faithfulForm Role
  | .profile => faithfulForm Profile
  | .extraDescriptor => faithfulForm ExtraDescriptor
  | .port => faithfulForm Port
  | .gain => faithfulForm Gain
  | .config => faithfulForm Config
  | .patch => faithfulForm Patch
  | .route => faithfulForm Route
  | .limits => faithfulForm Limits
  | .topology => faithfulForm Topology

theorem height_le (part : Part) : Place.alone.depth + part.schema.height ≤ nestingLimit := by
  cases part <;> decide

/-- **Parts are read in every arrangement.** The encoding of a value is one of its arrangements, and
from each of them the same value is read: with the members of objects in any order, without fields
that have the values that they are then given, and with further members of which those in formats
and roles are whole. But where a member that is used stands twice, or a field that cannot be `null`
is `null`, nothing is read. -/
theorem reads_every_arrangement (part : Part) :
    (∀ x : part.Carrier, part.schema.Arranged Value.Passable .alone x (encode x)) ∧
    (∀ (x : part.Carrier) (value : Value), part.schema.Arranged Value.Passable .alone x value →
      part.read? value = some x) ∧
    ∀ value : Value, part.schema.Flawed value → part.read? value = none :=
  ⟨fun x => part.schema.arranged_encode .alone x,
    fun _ _ h => part.schema.decode_arranged .alone part.faithful part.height_le h,
    fun _ h => part.schema.decode_of_flawed .alone h⟩

/-- A speaker in an unusual arrangement: no member stands where the encoding has it, neither the
connection nor the flags are given, and there are notes beside the others. -/
def notedSpeaker : Value :=
  .record [
    ("note", .array [.bool true]),
    ("device", .record [
      ("note", .null),
      ("address", .record [("value", .text "left"), ("type", .text "id")]),
      ("type", .record [("kind", .text "OutSpeaker")])]),
    ("kind", .text "device")]

/-- A speaker with flags that are `null`. -/
def flaglessSpeaker : Value :=
  .record [("kind", .text "device"), ("device", .record []), ("flags", .null)]

theorem noted_speaker_read :
    read? .role notedSpeaker = some (Role.device ⟨⟨.outSpeaker, ""⟩, .id "left"⟩ 0) ∧
      read? .role flaglessSpeaker = none := by
  have htype : (schemaOf DeviceType).Arranged Value.Passable ⟨2, true⟩ ⟨.outSpeaker, ""⟩
      (.record [("kind", .text "OutSpeaker")]) :=
    ⟨_, .inr ⟨_, _, rfl, Value.text?_text _, .inl ⟨rfl, rfl⟩⟩, Value.shows_record _⟩
  have haddress : (schemaOf Address).Arranged Value.Passable ⟨2, true⟩ (.id "left")
      (.record [("value", .text "left"), ("type", .text "id")]) :=
    ⟨_, ⟨_, _, rfl, Value.text?_text _, Value.text?_text _⟩,
      Value.shows_of_perm [] (.swap _ _ _) (by simp)⟩
  have hdevice : (schemaOf Device).Arranged Value.Passable ⟨1, true⟩
      ⟨⟨.outSpeaker, ""⟩, .id "left"⟩
      (.record [
        ("note", .null),
        ("address", .record [("value", .text "left"), ("type", .text "id")]),
        ("type", .record [("kind", .text "OutSpeaker")])]) := by
    refine ⟨_, .inr ⟨_, _, rfl, htype, .inr ⟨_, _, rfl, haddress, rfl⟩⟩,
      Value.shows_of_perm [("note", .null)] (List.reverse_perm _).symm ?_⟩
    rw [List.forall_mem_singleton]
    exact ⟨by decide, fun _ => rfl⟩
  obtain ⟨_, hread, hrefused⟩ := reads_every_arrangement .role
  constructor
  · refine hread _ _ ⟨_, _, Value.text?_text "device",
      .inr ⟨_, _, rfl, hdevice, .inl ⟨rfl, rfl⟩⟩, ?_⟩
    refine Value.shows_of_perm [("note", .array [.bool true])]
      (List.reverse_perm _).symm ?_
    rw [List.forall_mem_singleton]
    exact ⟨by decide, fun _ => by decide⟩
  · refine hrefused _ ⟨_, _, rfl, readNames?_ofText _,
      .inr ⟨_, _, List.mem_cons_self, Value.text?_text "device", ?_⟩⟩
    show if _ then _ else if _ then _ else _
    rw [if_neg (by decide), if_pos rfl]
    exact .inr (.inr (.inr (.inl ⟨.null, by simp, .inl ⟨rfl, rfl⟩⟩)))

end Part

/-- The given number of arrays inside one another, around `null`. -/
def Json.Value.nested : Nat → Value
  | 0 => .null
  | n + 1 => .array [nested n]

theorem Json.Value.isWhole_nested {n depth : Nat} :
    (nested n).isWhole depth = true ↔ n = 0 ∨ depth + n ≤ nestingLimit := by
  induction n generalizing depth with
  | zero => simp [nested, isWhole]
  | succ n ih =>
    simp [nested, isWhole, itemsWhole, ih]
    omega

namespace Part

/-- A format with a note in 128 arrays. -/
def notedFormat : Value :=
  .record [("type", .text "pcm"), ("pcm", .text "Int16"), ("note", .nested 128)]

/-- If further members could hold anything, not every arrangement would be read. -/
theorem not_reads_unlimited :
    ¬ ∀ (part : Part) (x : part.Carrier) (value : Value),
      part.schema.Arranged (fun _ _ => True) .alone x value → part.read? value = some x := by
  intro hread
  have hfields : Fields.Arranged (fun _ _ => True) ⟨1, true⟩
      (.required (α := Sample) "pcm" .none) (.int16, ()) [("pcm", .text "Int16")] :=
    .inr ⟨_, _, rfl, Value.text?_text _, rfl⟩
  have harranged : Part.format.schema.Arranged (fun _ _ => True) .alone (Format.pcm .int16)
      notedFormat := by
    refine ⟨_, _, Value.text?_text "pcm", hfields,
      Value.shows_of_perm [("note", .nested 128)] (.refl _) ?_⟩
    rw [List.forall_mem_singleton]
    exact ⟨by decide, trivial⟩
  have hwhole : ¬ notedFormat.isWhole Place.alone.depth = true := by
    simp [notedFormat, Value.record, Value.isWhole, Value.membersWhole, Value.isWhole_nested,
      Place.alone, nestingLimit]
  have hrefused : ∀ value : Value, ¬ value.isWhole Place.alone.depth = true →
      Part.format.read? value = none :=
    fun _ h => congrArg (Option.map _) (if_neg h)
  cases (hrefused _ hwhole).symm.trans (hread .format _ _ harranged)

end Part

end Patchbay
