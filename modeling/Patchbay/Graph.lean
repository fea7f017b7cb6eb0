import Patchbay.Fault
import Patchbay.Topology

/-!
# The port graph

The ports, port configs and routes of a bay, as they change while configs are made and
external devices come and go.
-/

namespace Patchbay

/-- The tables that start as those of a topology. -/
structure Graph where
  ports : List Port
  configs : List Config
  /-- What a reset of a config restores. -/
  initialConfigs : List Config
  routes : List Route
  /-- The profiles of simulated devices, by the template they are made from. -/
  connectedProfiles : KeyMap (List Profile)
  /-- The greatest key that a port or port config has had. -/
  lastKey : Key
  /-- The ports of connected external devices. -/
  connected : KeySet
  deriving DecidableEq, Repr

namespace Graph

/-- The graph that a topology describes, without external devices. -/
def ofTopology (topology : Topology) : Graph :=
  { ports := topology.ports
    configs := topology.configs
    initialConfigs := topology.configs
    routes := topology.routes
    connectedProfiles := topology.connectedProfiles
    lastKey := topology.lastPortKey
    connected := ∅ }

/-- The port with the key `port`. -/
def port (graph : Graph) (port : Key) : Except Fault Port :=
  present (Table.find? graph.ports port) (.portNotFound port)

/-- The key that the next port or port config gets. -/
def freshKey (graph : Graph) : Except Fault Key :=
  present graph.lastKey.next? (.noPortKeysLeft graph.lastKey)

/-- The routes that start or end at a port. -/
def routesAt (graph : Graph) (port : Key) : Except Fault (List Route) := do
  let _ ← graph.port port
  return graph.routes.filter (·.touches port)

end Graph

end Patchbay
