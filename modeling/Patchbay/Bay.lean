import Patchbay.Graph.Hotplug
import Patchbay.Ledger
import Patchbay.Stream.Admission
import Patchbay.Topology.BuiltIn
import Patchbay.Topology.Validation

/-!
# The bay

A bay is a running patchbay: the port graph, the ledger of patches and the open streams,
with the limits and switches that govern them. It is built from a topology, whose patches
are admitted like requested ones.
-/

namespace Patchbay

/-- Switches for tests. -/
structure DebugFlags where
  /-- External devices are connected without asking hardware for their profiles. -/
  simulateConnections : Bool
  deriving DecidableEq, Repr

namespace DebugFlags

/-- The switches of a new bay. -/
def initial : DebugFlags := ⟨false⟩

/-- The switches under which connections are simulated. -/
def simulated : DebugFlags := ⟨true⟩

/-- Whether going over to `target` switches simulation on or off. -/
def changesSimulation (flags target : DebugFlags) : Bool :=
  flags.simulateConnections != target.simulateConnections

end DebugFlags

/-- The state of a patchbay. -/
structure Bay where
  graph : Graph
  ledger : Ledger
  streams : OpenStreams
  debug : DebugFlags
  limits : Limits
  query : ProfileQuery

/-- Why no bay can be built from a topology. -/
inductive StartFault
  | illFormed (defect : Defect)
  | patchRefused (patch : Key) (fault : Fault)
  deriving DecidableEq, Repr

/-- The causes of a start fault, outermost first. -/
def StartFault.causes : StartFault → List String
  | .illFormed defect => [defect.message]
  | .patchRefused patch fault => [s!"Invalid initial patch {patch.text}", fault.message]

namespace Bay

/-- Admits the initial patches one after the other. -/
def admitAll (graph : Graph) (limits : Limits) (ledger : Ledger) :
    List Patch → Except StartFault Ledger
  | [] => .ok ledger
  | patch :: rest =>
    match ledger.restore patch graph.configs graph.routes limits with
    | .ok (_, ledger) => admitAll graph limits ledger rest
    | .error fault => .error (.patchRefused patch.id fault)

/-- The bay with the tables of a topology and the given patches. -/
def start (topology : Topology) (ledger : Ledger) (query : ProfileQuery) : Bay :=
  { graph := .ofTopology topology, ledger, streams := ∅, debug := .initial,
    limits := topology.limits, query }

/-- Builds a bay from a well-formed topology. -/
def ofTopology? (topology : Topology) (query : ProfileQuery) : Except StartFault Bay := do
  topology.validate.mapError .illFormed
  let ledger ← admitAll (.ofTopology topology) topology.limits .empty topology.patches
  return start topology ledger query

/-- The bay of the built-in topology. -/
def builtIn (query : ProfileQuery) : Bay :=
  start .builtIn .empty query

/-- Whether a stream is open on `config`. -/
def hasStream (bay : Bay) (config : Key) : Bool :=
  bay.streams.contains config

end Bay

end Patchbay
