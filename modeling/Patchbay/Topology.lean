import Patchbay.Config
import Patchbay.KeyMap
import Patchbay.Limits
import Patchbay.Patch
import Patchbay.Route

/-!
# Topologies

A topology is the fixed description from which a bay is built: its ports, the configs
and patches it starts with, its routes, and the profiles that external devices get when
their connection is simulated.
-/

namespace Patchbay

/-- What a bay is built from. -/
structure Topology where
  version : String
  ports : List Port
  /-- The configs that a bay starts with and that a reset restores. -/
  configs : List Config
  routes : List Route
  /-- The patches that a bay starts with. -/
  patches : List Patch
  /-- The profiles of simulated devices, by the template they are made from. -/
  connectedProfiles : KeyMap (List Profile)
  limits : Limits
  deriving DecidableEq, Repr

namespace Topology

/-- The greatest key of a port or port config. -/
def lastPortKey (topology : Topology) : Key :=
  max (Key.last (topology.ports.map (·.id))) (Key.last (topology.configs.map (·.id)))

/-- The greatest key of a patch. -/
def lastPatchKey (topology : Topology) : Key :=
  Key.last (topology.patches.map (·.id))

end Topology

end Patchbay
