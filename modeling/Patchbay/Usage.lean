import Patchbay.Config
import Patchbay.KeyMap
import Patchbay.Patch

/-!
# Usage

The record of what patches use: for the key of a port config or of a port, the patches
that connect that config, or a config of that port. Ports and configs share one space of
keys, so one record serves both.
-/

namespace Patchbay

/-- The patches that use each config and port. A key without patches is left out. -/
structure Usage where
  byKey : KeyMap KeySet
  deriving DecidableEq, Repr

namespace Usage

/-- Nothing is used. -/
def empty : Usage := ⟨∅⟩

/-- Whether nothing is used. -/
def isEmpty (usage : Usage) : Bool :=
  usage.byKey.isEmpty

/-- The patches that use `key`. -/
def patchesOf (usage : Usage) (key : Key) : KeySet :=
  (usage.byKey.get? key).getD ∅

/-- Whether some patch uses `key`. -/
def isUsed (usage : Usage) (key : Key) : Bool :=
  usage.byKey.contains key

/-- The patch with the least key among those that use `key`. -/
def first? (usage : Usage) (key : Key) : Option Key :=
  (usage.patchesOf key).min?

/-- Records that `patch` uses `key`. -/
def note (patch : Key) (usage : Usage) (key : Key) : Usage :=
  ⟨usage.byKey.insert key ((usage.patchesOf key).add patch)⟩

/-- What a patch uses: each config it connects, as far as it exists, and the port of that
config. -/
def keysOf (patch : Patch) (configs : List Config) : List Key :=
  (Table.select configs patch.configs).flatMap fun config => [config.id, config.portId]

/-- Records everything that `patch` uses. -/
def register (usage : Usage) (patch : Patch) (configs : List Config) : Usage :=
  (keysOf patch configs).foldl (note patch.id) usage

/-- Forgets everything that `patch` uses. -/
def release (usage : Usage) (patch : Key) : Usage :=
  ⟨usage.byKey.filterMap fun patches =>
    let others := patches.erase patch
    if others.isEmpty then none else some others⟩

end Usage

end Patchbay
