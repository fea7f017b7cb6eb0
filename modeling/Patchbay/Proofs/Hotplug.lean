import Patchbay.Graph.Hotplug
import Patchbay.Proofs.Checks
import Patchbay.Proofs.KeyMap
import Patchbay.Proofs.Table

/-!
# When devices come and go

`Graph.connect` and `Graph.disconnect` succeed exactly under the conditions stated here,
and the graphs that they return are written out in full.
-/

namespace Patchbay

/-- A device port takes over the address of the device that is connected. -/
theorem Role.device?_withAddress {role : Role} {hardware : Device} {address : Address}
    (h : role.device? = some hardware) :
    (role.withAddress address).device? = some { hardware with address } := by
  cases role with
  | device _ _ =>
    cases h
    rfl
  | unspecified => cases h
  | mix _ _ _ => cases h

/-- The address of a request is wanting only when the request is for a mix port. -/
theorem Port.requestedAddress_eq_error {request : Port} {fault : Fault}
    (h : request.requestedAddress = .error fault) : fault = .carriesMixData request.id := by
  unfold requestedAddress at h
  split at h <;> cases h
  rfl

namespace Graph

variable {graph next : Graph}

theorem port_eq_ok {key : Key} {port : Port} :
    graph.port key = .ok port ↔ Table.find? graph.ports key = some port :=
  present_eq_ok

theorem freshKey_eq_ok {key : Key} :
    graph.freshKey = .ok key ↔ graph.lastKey.next? = some key :=
  present_eq_ok

/-- The profiles of a device are wanting only when the query does not find them out. -/
theorem profilesFor_eq_error {template : Key} {device : Device} {simulated : Bool}
    {query : ProfileQuery} {fault : Fault}
    (h : graph.profilesFor template device simulated query = .error fault) :
    fault = .queryFailed query.name := by
  unfold profilesFor at h
  split at h
  · cases h
  · exact (present_eq_error.1 h).2.symm

/-- The port of a device made from `template`. -/
def devicePort (template request : Port) (address : Address) (profiles : List Profile)
    (key : Key) : Port :=
  { template with
    id := key
    profiles
    role := template.role.withAddress address
    extraDescriptors := request.extraDescriptors }

/-- The graph after a device made from `template` has got the port `port`. -/
def withDevice (graph : Graph) (template : Key) (port : Port) : Graph :=
  { graph with
    ports := graph.ports ++ [port]
    routes := Route.extend template port.id graph.routes
    lastKey := port.id
    connected := graph.connected.add port.id }

theorem keys_withDevice (graph : Graph) (template : Key) (port : Port) :
    Table.keys (graph.withDevice template port).ports = Table.keys graph.ports ++ [port.id] :=
  Table.keys_append _ _

/-- The graph after the device with the port `port` has gone. -/
def withoutDevice (graph : Graph) (port : Key) : Graph :=
  { graph with
    ports := Table.remove graph.ports port
    configs := graph.configs.filter (·.portId != port)
    initialConfigs := graph.initialConfigs.filter (·.portId != port)
    routes := Route.prune port graph.routes
    connected := graph.connected.erase port }

/-- A device is connected exactly when its template allows it, it is not connected
already, its profiles are known and a key is left. -/
theorem connect_eq_ok {request port : Port} {simulated : Bool} {query : ProfileQuery} :
    graph.connect request simulated query = .ok (port, next) ↔
      ∃ template hardware address profiles key,
        Table.find? graph.ports request.id = some template ∧
        template.role.device? = some hardware ∧
        template.profiles = [] ∧ hardware.isExternal = true ∧
        request.requestedAddress = .ok address ∧
        graph.portOf? { hardware with address } = none ∧
        graph.profilesFor template.id { hardware with address } simulated query =
          .ok profiles ∧
        graph.lastKey.next? = some key ∧
        port = devicePort template request address profiles key ∧
        next = graph.withDevice template.id port := by
  unfold connect
  simp only [bind_eq_ok, port_eq_ok, present_eq_ok, require_eq_ok]
  constructor
  · rintro ⟨template, htemplate, hardware, hdevice, _, hprofiles, _, hexternal, address,
      haddress, h⟩
    cases hother : graph.portOf? { hardware with address } with
    | some other =>
      rw [hother] at h
      cases h
    | none =>
      rw [hother] at h
      simp only [bind_eq_ok, freshKey_eq_ok] at h
      obtain ⟨profiles, hqueried, key, hkey, heq⟩ := h
      cases heq
      exact ⟨template, hardware, address, profiles, key, htemplate, hdevice, hprofiles,
        hexternal, haddress, hother, hqueried, hkey, rfl, rfl⟩
  · rintro ⟨template, hardware, address, profiles, key, htemplate, hdevice, hprofiles,
      hexternal, haddress, hother, hqueried, hkey, rfl, rfl⟩
    refine ⟨template, htemplate, hardware, hdevice, (), hprofiles, (), hexternal, address,
      haddress, ?_⟩
    rw [hother]
    simp only [bind_eq_ok, freshKey_eq_ok]
    exact ⟨profiles, hqueried, key, hkey, rfl⟩

/-- A device that would be connected with another last key is refused when no key is left. -/
theorem connect_exhausted {request port : Port} {simulated : Bool} {query : ProfileQuery}
    {last : Key} (h : { graph with lastKey := last }.connect request simulated query =
      .ok (port, next)) (hlast : graph.lastKey.next? = none) :
    graph.connect request simulated query = .error (.noPortKeysLeft graph.lastKey) := by
  obtain ⟨template, hardware, address, profiles, _, htemplate, hdevice, hprofiles, hexternal,
    haddress, hother, hqueried, _⟩ := connect_eq_ok.1 h
  unfold connect
  simp only [bind_eq_error, port_eq_ok, present_eq_ok, require_eq_ok]
  refine .inr ⟨template, htemplate, .inr ⟨hardware, hdevice, .inr ⟨(), hprofiles,
    .inr ⟨(), hexternal, .inr ⟨address, haddress, ?_⟩⟩⟩⟩⟩
  -- the look-up of the device does not depend on the last key
  have hother : graph.portOf? { hardware with address } = none := hother
  rw [hother]
  simp only [bind_eq_error]
  exact .inr ⟨profiles, hqueried, .inl (present_eq_error.2 ⟨hlast, rfl⟩)⟩

/-- A connection adds a device port under a fresh key, with the routes of a port that exists. -/
theorem connect_eq_withDevice {request port : Port} {simulated : Bool} {query : ProfileQuery}
    (h : graph.connect request simulated query = .ok (port, next)) :
    request.id ∈ Table.keys graph.ports ∧ graph.lastKey.next? = some port.id ∧
      port.role.isDevice = true ∧ next = graph.withDevice request.id port := by
  obtain ⟨template, hardware, address, profiles, key, htemplate, hdevice, _, _, _, _, _, hkey,
    rfl, rfl⟩ := connect_eq_ok.1 h
  have hid : template.id = request.id := Table.key_of_find? htemplate
  refine ⟨?_, hkey, ?_, by rw [hid]⟩
  · exact Table.mem_keys.2 ⟨template, Table.mem_of_find? htemplate, hid⟩
  · exact Option.isSome_of_eq_some (Role.device?_withAddress hdevice)

/-- A device is disconnected exactly when it is connected and no config of its port
differs from its initial state. -/
theorem disconnect_eq_ok {port : Key} :
    graph.disconnect port = .ok next ↔
      (∃ entry, Table.find? graph.ports port = some entry ∧ entry.role.isDevice = true) ∧
        graph.connected.contains port = true ∧ graph.customized? port = none ∧
        next = graph.withoutDevice port := by
  unfold disconnect
  simp only [bind_eq_ok, port_eq_ok, require_eq_ok]
  constructor
  · rintro ⟨entry, hentry, _, hdevice, _, hconnected, h⟩
    cases hcustom : graph.customized? port with
    | some config =>
      rw [hcustom] at h
      cases h
    | none =>
      rw [hcustom] at h
      cases h
      exact ⟨⟨entry, hentry, hdevice⟩, hconnected, rfl, rfl⟩
  · rintro ⟨⟨entry, hentry, hdevice⟩, hconnected, hcustom, rfl⟩
    refine ⟨entry, hentry, (), hdevice, (), hconnected, ?_⟩
    rw [hcustom]
    rfl

/-- A port is not customized exactly when all its configs are in their initial states. -/
theorem customized?_eq_none {port : Key} :
    graph.customized? port = none ↔
      ∀ config ∈ graph.configs, config.portId = port →
        Table.find? graph.initialConfigs config.id = some config := by
  unfold customized?
  rw [List.find?_eq_none]
  simp only [bne_iff_ne, ne_eq, Bool.and_eq_true, beq_iff_eq, not_and,
    Decidable.not_not]

end Graph

end Patchbay
