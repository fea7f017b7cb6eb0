import Patchbay.Topology

/-!
# Well-formed topologies

`Topology.validate` looks for the first defect of a topology: keys that are not positive
or not unique, references to entries that do not exist, empty lists where there must be
an entry, and keys so great that none is left.
-/

namespace Patchbay

/-- What can be wrong with a topology. -/
inductive Defect
  | portKeyNotPositive (name : String) (port : Key)
  | portKeyRepeated (port : Key)
  | configKeyNotPositive (port config : Key)
  | configPortUnknown (config port : Key)
  | configKeyCollides (config : Key)
  | configKeyRepeated (config : Key)
  | routeWithoutSource (sink : Key)
  | routeSinkUnknown (sink : Key)
  | routeSourceUnknown (sink source : Key)
  | patchKeyInvalid (patch : Key)
  | patchListEmpty (patch : Key)
  | patchConfigUnknown (patch config : Key)
  | profilesOfNonDevice (port : Key)
  | profilesOfUnknown (port : Key)
  | minBufferNotPositive
  | portKeysExhausted (last : Key)
  | patchKeysExhausted (last : Key)
  deriving DecidableEq, Repr

/-- The text that says what is wrong. -/
def Defect.message : Defect → String
  | .portKeyNotPositive name port => s!"Port '{name}' has non-positive id {port.text}"
  | .portKeyRepeated port => s!"Duplicate port id {port.text}"
  | .configKeyNotPositive port config =>
    s!"Port config for port {port.text} has non-positive id {config.text}"
  | .configPortUnknown config port =>
    s!"Port config {config.text} references unknown port {port.text}"
  | .configKeyCollides config => s!"Port config id {config.text} collides with another id"
  | .configKeyRepeated config => s!"Duplicate port config id {config.text}"
  | .routeWithoutSource sink => s!"Route to sink port {sink.text} has no sources"
  | .routeSinkUnknown sink => s!"Route references unknown sink port {sink.text}"
  | .routeSourceUnknown sink source =>
    s!"Route to sink port {sink.text} references unknown source port {source.text}"
  | .patchKeyInvalid patch => s!"Patch id {patch.text} is invalid or duplicated"
  | .patchListEmpty patch => s!"Patch {patch.text} has an empty source or sink list"
  | .patchConfigUnknown patch config =>
    s!"Patch {patch.text} references unknown port config {config.text}"
  | .profilesOfNonDevice port => s!"Connected profiles target non-device port {port.text}"
  | .profilesOfUnknown port => s!"Connected profiles target unknown port {port.text}"
  | .minBufferNotPositive => "Minimum stream buffer size must be positive"
  | .portKeysExhausted last =>
    s!"Port id {last.text} leaves no room for new ports or port configs"
  | .patchKeysExhausted last => s!"Patch id {last.text} leaves no room for new patches"

namespace Topology

/-- The first defect of an entry of a list, where each entry is examined together with
the entries before it. -/
def firstDefect {α : Type} (examine : List α → α → Option Defect) (earlier : List α) :
    List α → Option Defect
  | [] => none
  | entry :: rest =>
    (examine earlier entry).or (firstDefect examine (earlier ++ [entry]) rest)

/-- The defect of a port that follows the ports `earlier`. -/
def portDefect? (earlier : List Port) (port : Port) : Option Defect :=
  if port.id ≤ 0 then some (.portKeyNotPositive port.name port.id)
  else if Table.holds earlier port.id then some (.portKeyRepeated port.id)
  else none

/-- Whether the key of a config is that of a port other than its own, or of an earlier
config that has a key of its own. -/
def collides (ports : List Port) (earlier : List Config) (config : Config) : Bool :=
  config.id != config.portId &&
    (Table.holds ports config.id ||
      earlier.any fun other => other.id == config.id && other.id != other.portId)

/-- The defect of a config that follows the configs `earlier`. -/
def configDefect? (ports : List Port) (earlier : List Config) (config : Config) :
    Option Defect :=
  if config.id ≤ 0 then some (.configKeyNotPositive config.portId config.id)
  else if !Table.holds ports config.portId then
    some (.configPortUnknown config.id config.portId)
  else if collides ports earlier config then some (.configKeyCollides config.id)
  else if Table.holds earlier config.id then some (.configKeyRepeated config.id)
  else none

/-- The defect of a route. -/
def routeDefect? (ports : List Port) (route : Route) : Option Defect :=
  if route.sources.isEmpty then some (.routeWithoutSource route.sink)
  else if !Table.holds ports route.sink then some (.routeSinkUnknown route.sink)
  else (route.sources.find? (!Table.holds ports ·)).map (.routeSourceUnknown route.sink)

/-- The defect of a patch that follows the patches `earlier`. -/
def patchDefect? (configs : List Config) (earlier : List Patch) (patch : Patch) :
    Option Defect :=
  if patch.id ≤ 0 || Table.holds earlier patch.id then some (.patchKeyInvalid patch.id)
  else if patch.sources.isEmpty || patch.sinks.isEmpty then some (.patchListEmpty patch.id)
  else (patch.configs.find? (!Table.holds configs ·)).map (.patchConfigUnknown patch.id)

/-- The defect of giving profiles to devices made from the template `port`. -/
def profilesDefect? (ports : List Port) (port : Key) : Option Defect :=
  match Table.find? ports port with
  | none => some (.profilesOfUnknown port)
  | some template => if template.role.isDevice then none else some (.profilesOfNonDevice port)

/-- The key that the next port or port config gets. -/
def nextPortKey (topology : Topology) : Except Defect Key :=
  match topology.lastPortKey.next? with
  | some key => .ok key
  | none => .error (.portKeysExhausted topology.lastPortKey)

/-- The key that the next patch gets. -/
def nextPatchKey (topology : Topology) : Except Defect Key :=
  match topology.lastPatchKey.next? with
  | some key => .ok key
  | none => .error (.patchKeysExhausted topology.lastPatchKey)

/-- The first defect among the entries of the tables and the limits. -/
def tableDefect? (topology : Topology) : Option Defect :=
  (firstDefect portDefect? [] topology.ports).or <|
  (firstDefect (configDefect? topology.ports) [] topology.configs).or <|
  (topology.routes.findSome? (routeDefect? topology.ports)).or <|
  (firstDefect (patchDefect? topology.configs) [] topology.patches).or <|
  (topology.connectedProfiles.keys.findSome? (profilesDefect? topology.ports)).or <|
  if topology.limits.minBufferFrames ≤ 0 then some .minBufferNotPositive else none

/-- Accepts a well-formed topology and refuses any other with its first defect. -/
def validate (topology : Topology) : Except Defect Unit := do
  if let some defect := topology.tableDefect? then
    throw defect
  let _ ← topology.nextPortKey
  let _ ← topology.nextPatchKey

end Topology

end Patchbay
