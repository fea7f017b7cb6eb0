import Patchbay.Graph

/-!
# External devices

Connecting an external device makes a port for it from a template: the port copies the
template, has the address of the device, and gets the routes of the template.
Disconnecting the device takes the port and its routes away again, once nothing that a
client has made is left on the port.
-/

namespace Patchbay

/-- A way to ask hardware for the profiles of a device. -/
structure ProfileQuery where
  name : String
  /-- The profiles that a device supports, if they can be found out. -/
  profiles? : Device → Option (List Profile)

/-- The query that finds out nothing. -/
def ProfileQuery.unavailable : ProfileQuery :=
  { name := "unavailable", profiles? := fun _ => none }

/-- The address that a request to connect a device gives. -/
def Port.requestedAddress (request : Port) : Except Fault Address :=
  match request.role with
  | .device hardware _ => .ok hardware.address
  | .unspecified => .ok .none
  | .mix _ _ _ => .error (.carriesMixData request.id)

namespace Graph

/-- The port of the connected device `device`. -/
def portOf? (graph : Graph) (device : Device) : Option Key :=
  graph.connected.keys.find? fun key =>
    (Table.find? graph.ports key).bind (·.role.device?) == some device

/-- The profiles of a new device: those prescribed for the template when connections are
simulated, and otherwise what the query finds out. -/
def profilesFor (graph : Graph) (template : Key) (device : Device) (simulated : Bool)
    (query : ProfileQuery) : Except Fault (List Profile) :=
  if simulated then .ok ((graph.connectedProfiles.get? template).getD [])
  else present (query.profiles? device) (.queryFailed query.name)

/-- Makes a port for an external device from the template named by `request`. -/
def connect (graph : Graph) (request : Port) (simulated : Bool) (query : ProfileQuery) :
    Except Fault (Port × Graph) := do
  let template ← graph.port request.id
  let hardware ← present template.role.device? (.notDevicePort template.id)
  require (template.profiles = []) (.profilesNotDynamic template.id)
  require hardware.isExternal (.permanentlyAttached template.id)
  let address ← request.requestedAddress
  let device := { hardware with address }
  if let some other := graph.portOf? device then
    throw (.alreadyConnected device other)
  let profiles ← graph.profilesFor template.id device simulated query
  let key ← graph.freshKey
  let port :=
    { template with
      id := key
      profiles
      role := template.role.withAddress address
      extraDescriptors := request.extraDescriptors }
  return (port,
    { graph with
      ports := graph.ports ++ [port]
      routes := Route.extend template.id key graph.routes
      lastKey := key
      connected := graph.connected.add key })

/-- The first config of a port that differs from its initial state. -/
def customized? (graph : Graph) (port : Key) : Option Config :=
  graph.configs.find? fun config =>
    config.portId == port && Table.find? graph.initialConfigs config.id != some config

/-- Removes the port of an external device, with its configs and routes. -/
def disconnect (graph : Graph) (port : Key) : Except Fault Graph := do
  let entry ← graph.port port
  require entry.role.isDevice (.notDevicePort port)
  require (graph.connected.contains port) (.notConnected port)
  if let some config := graph.customized? port then
    throw (.portCustomized port config.id)
  return { graph with
    ports := Table.remove graph.ports port
    configs := graph.configs.filter (·.portId != port)
    initialConfigs := graph.initialConfigs.filter (·.portId != port)
    routes := Route.prune port graph.routes
    connected := graph.connected.erase port }

end Graph

end Patchbay
