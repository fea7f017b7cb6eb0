import Patchbay.Bay.Request
import Patchbay.Proofs.Checks
import Patchbay.Proofs.KeyMap
import Patchbay.Proofs.Table

/-!
# When streams are admitted

A stream finds a place exactly under the conditions stated here (`Bay.streamPlace_eq_ok`), and the
number of streams that are noted for a port changes by what is opened and closed.
-/

namespace Patchbay

/-- The cap on the open streams of a mix port. -/
def Role.maxOpen? : Role → Option UInt32
  | .mix _ maxOpen _ => some maxOpen
  | _ => none

/-- Device ports are not mix ports. -/
theorem Role.maxOpen?_of_isDevice {role : Role} (h : role.isDevice = true) :
    role.maxOpen? = none := by
  cases role with
  | device _ _ => rfl
  | unspecified => rfl
  | mix _ _ _ => cases h

namespace OpenStreams

variable {streams : OpenStreams} {config : Config} {port : Port} {key : Key}

/-- There is room on a config without a stream, if its port is a mix port and has fewer streams
than it takes. -/
theorem requireRoom_eq_ok {result : Unit} :
    streams.requireRoom config port = .ok result ↔
      KeyMap.contains streams config.id = false ∧
        ∃ maxOpen, port.role.maxOpen? = some maxOpen ∧
          (maxOpen = 0 ∨ streams.countOn port.id < maxOpen.toNat) := by
  unfold requireRoom
  simp only [bind_eq_ok, require_eq_ok, Bool.not_eq_true']
  cases port.role <;> simp [Role.maxOpen?]

theorem countOn_insert (h : KeyMap.contains streams key = false) (entry : OpenStream) :
    countOn (KeyMap.insert streams key entry) port.id =
      streams.countOn port.id + if entry.port = port.id then 1 else 0 := by
  unfold countOn
  rw [(KeyMap.perm_values_insert h).countP_eq, List.countP_cons]
  simp

theorem countOn_erase_le (streams : OpenStreams) (key port : Key) :
    countOn (KeyMap.erase streams key) port ≤ streams.countOn port :=
  KeyMap.values_erase_sublist.countP_le

end OpenStreams

namespace Bay

variable {bay : Bay} {key : Key}

/-- A config takes a stream when there is room on its port. -/
theorem streamPlace_eq_ok {config : Config} {port : Port} :
    bay.streamPlace key = .ok (config, port) ↔
      Table.find? bay.graph.configs key = some config ∧
        Table.find? bay.graph.ports config.portId = some port ∧ bay.hasStream key = false ∧
        ∃ maxOpen, port.role.maxOpen? = some maxOpen ∧
          (maxOpen = 0 ∨ bay.streams.countOn port.id < maxOpen.toNat) := by
  unfold streamPlace hasStream
  simp only [bind_eq_ok, present_eq_ok, pure_eq_ok, OpenStreams.requireRoom_eq_ok]
  constructor
  · rintro ⟨entry, hentry, found, hport, _, ⟨hclosed, hroom⟩, he⟩
    cases he
    have hkey : config.id = key := Table.key_of_find? hentry
    rw [hkey] at hclosed
    exact ⟨hentry, hport, hclosed, hroom⟩
  · rintro ⟨hentry, hport, hclosed, hroom⟩
    have hkey : config.id = key := Table.key_of_find? hentry
    refine ⟨config, hentry, port, hport, (), ⟨?_, hroom⟩, rfl⟩
    rw [hkey]
    exact hclosed

end Bay

end Patchbay
