import Patchbay.Proofs.Freshness
import Patchbay.Proofs.Identity
import Patchbay.Proofs.Lineage

/-!
# Connections and how to undo them

A device is connected exactly if the request names a template for it, the device is new, its
profiles can be found out and a key is left (`Bay.Receives`). Its port is the template under a fresh
key, with the address and the extra descriptors of the request and with profiles of its own.

The port leaves marks on the routes of others, as a source behind the template and as the sink of
copies. Since its key is fresh, these can be told from what was there before, whatever routes there
are, and a disconnection takes away just that (`Graph.withoutDevice_withDevice`). No config belongs
to the port yet, so nothing keeps it from being disconnected. `Bay.connection_exact` puts this
together: all that a connection leaves behind when it is undone at once is that its key is spent.
-/

namespace Patchbay

/-! ## Connections that are undone -/

namespace Graph

variable {topology : Topology} {graph : Graph} {port : Port}

section Undo

variable (h : graph.Grown topology) (hkey : graph.lastKey < port.id)

include h hkey

/-- No config belongs to a port with a fresh key. -/
theorem portId_ne_fresh : ∀ config ∈ graph.configs, config.portId ≠ port.id := by
  intro config hmem he
  have hport := h.place_port config.place (List.mem_map_of_mem hmem)
  rw [Config.place_snd, he] at hport
  exact h.port_not_mem hkey hport

/-- Nothing on a new port differs from its initial state. -/
theorem customized?_withDevice (template : Key) :
    (graph.withDevice template port).customized? port.id = none := by
  rw [customized?_eq_none]
  intro config hmem he
  exact absurd he (portId_ne_fresh h hkey config hmem)

/-- When a device has come and gone, all is as it was but for the last key. -/
theorem withoutDevice_withDevice (hwf : topology.WellFormed) (hdevice : port.role.isDevice = true)
    (template : Key) :
    (graph.withDevice template port).withoutDevice port.id =
      { graph with lastKey := port.id } := by
  have hnew : port.id ∉ Table.keys graph.ports := h.port_not_mem hkey
  have hgrown := h.withDevice hkey hdevice template
  have hconnected : port.id ∈ (graph.withDevice template port).connected.keys := by
    rw [h.withDevice_connected hkey]
    exact List.mem_concat_self
  have hports : Table.remove (graph.ports ++ [port]) port.id = graph.ports :=
    Table.remove_concat hnew
  have hconfigs :=
    hgrown.withoutDevice_configs hwf hconnected (customized?_withDevice h hkey template)
  have hinitial := hgrown.withoutDevice_initialConfigs hwf hconnected
  -- no route mentions the port, and neither does the set of connected keys
  have hroutes :
      Route.prune port.id (Route.extend template port.id graph.routes) = graph.routes :=
    Route.prune_extend (h.wired.not_mentions hnew) template
  have hset : (graph.connected.add port.id).erase port.id = graph.connected := by
    apply KeyMap.erase_insert
    rw [Bool.eq_false_iff]
    intro hmem
    exact hnew (h.connected_port (KeyMap.mem_keys.2 hmem))
  show Graph.mk _ _ _ _ _ _ _ = Graph.mk _ _ _ _ _ _ _
  rw [Graph.mk.injEq]
  exact ⟨hports, hconfigs, hinitial, hroutes, rfl, rfl, hset⟩

/-- A new device may be disconnected at once, and then all is as it was but for the last key. -/
theorem disconnect_withDevice (hwf : topology.WellFormed) (hdevice : port.role.isDevice = true)
    (template : Key) :
    (graph.withDevice template port).disconnect port.id =
      .ok { graph with lastKey := port.id } := by
  rw [disconnect_eq_ok]
  refine ⟨⟨port, ?_, hdevice⟩, ?_, customized?_withDevice h hkey template, ?_⟩
  · exact Table.find?_concat (h.port_not_mem hkey)
  · exact KeySet.contains_add.2 (.inl rfl)
  · exact (withoutDevice_withDevice h hkey hwf hdevice template).symm

end Undo

end Graph

/-! ## What a connection takes -/

namespace Port

variable {request : Port} {address : Address}

/-- The address that a request gives: that of its device, and none when it has no device. -/
def givenAddress (request : Port) : Address :=
  (request.role.device?.map (·.address)).getD .none

/-- A request gives an address unless it is for a mix port. -/
theorem requestedAddress_eq_ok :
    request.requestedAddress = .ok address ↔
      (∀ handle maxOpen maxActive, request.role ≠ .mix handle maxOpen maxActive) ∧
        address = request.givenAddress := by
  unfold requestedAddress givenAddress
  cases request.role with
  | unspecified => simp [Role.device?, eq_comm]
  | device hardware flags => simp [Role.device?, eq_comm]
  | mix handle maxOpen maxActive => simp

end Port

theorem Device.isExternal_iff {device : Device} :
    device.isExternal = true ↔ device.type.connection ≠ "" := by
  unfold isExternal
  simp

/-- The profiles of a device are known when connections are simulated, or when the query finds them
out. -/
theorem Graph.exists_profilesFor_iff {device : Device} {simulated : Bool} {query : ProfileQuery}
    (graph : Graph) (template : Key) :
    (∃ profiles, graph.profilesFor template device simulated query = .ok profiles) ↔
      simulated = true ∨ (query.profiles? device).isSome = true := by
  unfold profilesFor
  cases simulated with
  | true => simp
  | false => simp [Option.isSome_iff_exists]

namespace Bay

variable {topology : Topology} {query : ProfileQuery} {bay next : Bay}
  {request template port : Port} {hardware : Device} {answer : Answer}

/-- The request names `template` for external devices such as `hardware`, and with the address that
it gives the device is new, its profiles can be found out, and there is a key for its port. -/
structure Receives (bay : Bay) (request template : Port) (hardware : Device) : Prop where
  found : Table.find? bay.graph.ports request.id = some template
  device : template.role.device? = some hardware
  dynamic : template.profiles = []
  external : hardware.type.connection ≠ ""
  role : ∀ handle maxOpen maxActive, request.role ≠ .mix handle maxOpen maxActive
  new : ¬ bay.graph.Connected { hardware with address := request.givenAddress }
  profiles : bay.debug.simulateConnections = true ∨
    (bay.query.profiles? { hardware with address := request.givenAddress }).isSome = true
  key : bay.graph.lastKey ≠ Int32.maxValue

/-- What the graph checks before it connects a device is what it takes. -/
theorem Receives.connect (h : bay.Receives request template hardware) :
    ∃ port, bay.graph.connect request bay.debug.simulateConnections bay.query =
      .ok (port, bay.graph.withDevice template.id port) := by
  obtain ⟨profiles, hprofiles⟩ := (bay.graph.exists_profilesFor_iff template.id).2 h.profiles
  obtain ⟨key, hkey⟩ := Option.ne_none_iff_exists'.1 (mt Key.next?_eq_none.1 h.key)
  refine ⟨_, Graph.connect_eq_ok.2 ⟨template, hardware, request.givenAddress, profiles, key,
    h.found, h.device, h.dynamic, Device.isExternal_iff.2 h.external, ?_, ?_, hprofiles, hkey,
    rfl, rfl⟩⟩
  · exact Port.requestedAddress_eq_ok.2 ⟨h.role, rfl⟩
  · exact Graph.portOf?_eq_none.2 h.new

theorem receives_of_connect {graph : Graph}
    (h : bay.graph.connect request bay.debug.simulateConnections bay.query = .ok (port, graph)) :
    ∃ template hardware profiles, bay.Receives request template hardware ∧
      bay.graph.lastKey.next? = some port.id ∧
      port = Graph.devicePort template request request.givenAddress profiles port.id ∧
      graph = bay.graph.withDevice template.id port := by
  obtain ⟨template, hardware, address, profiles, key, hfound, hdevice, hdynamic, hexternal,
    haddress, hother, hprofiles, hkey, rfl, rfl⟩ := Graph.connect_eq_ok.1 h
  obtain ⟨hrole, rfl⟩ := Port.requestedAddress_eq_ok.1 haddress
  refine ⟨template, hardware, profiles, ?_, hkey, rfl, rfl⟩
  exact
    { found := hfound
      device := hdevice
      dynamic := hdynamic
      external := Device.isExternal_iff.1 hexternal
      role := hrole
      new := Graph.portOf?_eq_none.1 hother
      profiles := (bay.graph.exists_profilesFor_iff template.id).1 ⟨profiles, hprofiles⟩
      key := fun hlast => by
        rw [Key.next?_eq_none.2 hlast] at hkey
        cases hkey }

theorem respond_connect_eq_ok :
    bay.respond (.connect request) = .ok (answer, next) ↔
      ∃ port graph, bay.graph.connect request bay.debug.simulateConnections bay.query =
        .ok (port, graph) ∧ answer = .port port ∧ next = { bay with graph } := by
  simp only [respond, bind_eq_ok, pure_eq_ok]
  constructor
  · rintro ⟨⟨port, graph⟩, hconnect, heq⟩
    cases heq
    exact ⟨port, graph, hconnect, rfl, rfl⟩
  · rintro ⟨port, graph, hconnect, rfl, rfl⟩
    exact ⟨(port, graph), hconnect, rfl⟩

/-- **A connection is granted exactly when it can be made, and can be undone.** In a reachable bay,
a device is connected exactly if the request names a template for it and is not for a mix port, and
the device is new, has profiles that are simulated or found out, and gets a key. Its port is added
to the ports, and is the template but for a fresh key, the address and the extra descriptors of the
request and the profiles. It can be disconnected at once, and then the bay is as it was, except that
the key is spent. -/
theorem connection_exact (h : Reachable topology query bay) (request : Port) :
    ((∃ answer next, bay.step (.connect request) = (.ok answer, next)) ↔
      ∃ template hardware, bay.Receives request template hardware) ∧
    ∀ answer next, bay.step (.connect request) = (.ok answer, next) →
      ∃ template port, Table.find? bay.graph.ports request.id = some template ∧
        answer = .port port ∧ bay.graph.lastKey < port.id ∧ port.id ∉ bay.graph.keys ∧
        port =
          { template with
            id := port.id
            profiles := port.profiles
            role := template.role.withAddress request.givenAddress
            extraDescriptors := request.extraDescriptors } ∧
        next.graph.ports = bay.graph.ports ++ [port] ∧
        next.step (.disconnect port.id) =
          (.ok .done, { bay with graph := { bay.graph with lastKey := port.id } }) := by
  refine ⟨⟨?_, ?_⟩, ?_⟩
  · rintro ⟨answer, next, hstep⟩
    obtain ⟨port, graph, hconnect, _⟩ := respond_connect_eq_ok.1 (step_eq_ok.1 hstep)
    obtain ⟨template, hardware, _, hreceives, _⟩ := receives_of_connect hconnect
    exact ⟨template, hardware, hreceives⟩
  · rintro ⟨template, hardware, hreceives⟩
    obtain ⟨port, hconnect⟩ := hreceives.connect
    exact ⟨_, _, step_of_respond (respond_connect_eq_ok.2 ⟨port, _, hconnect, rfl, rfl⟩)⟩
  · intro answer next hstep
    obtain ⟨port, graph, hconnect, rfl, rfl⟩ := respond_connect_eq_ok.1 (step_eq_ok.1 hstep)
    obtain ⟨template, hardware, profiles, hreceives, hkey, hport, rfl⟩ :=
      receives_of_connect hconnect
    have hlt := Key.lt_of_next? hkey
    have hnew : port.id ∉ bay.graph.keys := by
      intro hmem
      exact Int32.not_le.2 hlt (h.sound.graph.key_last port.id hmem)
    have hdevice : port.role.isDevice = true := by
      rw [hport]
      exact Option.isSome_of_eq_some (Role.device?_withAddress hreceives.device)
    have hgone := Graph.disconnect_withDevice h.sound.graph hlt h.wellFormed hdevice template.id
    refine ⟨template, port, hreceives.found, rfl, hlt, hnew, ?_, rfl, ?_⟩
    · have hprofiles : port.profiles = profiles := congrArg Port.profiles hport
      rw [hprofiles]
      exact hport
    · apply step_of_respond
      simp only [respond, bind_eq_ok, pure_eq_ok]
      exact ⟨_, hgone, rfl⟩

/-- A bay with a USB input and a USB output, each of which may be a template again. -/
def loopBay : Bay :=
  ((start usbLoop .empty .unavailable).run usbLoopEarly).2

/-- The USB output, which is port 9. -/
def loopOutput : Port :=
  { Topology.BuiltIn.devicePort 9 "USB Out" .output .outDevice "usb" 0 [] with
    role := .device ⟨⟨.outDevice, "usb"⟩, .alsa [1, 0]⟩ 0 }

theorem loopBay_output : Table.find? loopBay.graph.ports 9 = some loopOutput := by
  decide

/-- A request for a USB output with the given card number, by way of a template. -/
def usbRequest (template : Key) (card : Int32) : Port :=
  { id := template, name := "", profiles := [], flags := ⟨.output, 0⟩
    role := .device ⟨⟨.outDevice, "usb"⟩, .alsa [card, 0]⟩ 0, extraDescriptors := [] }

/-- Card 1 is connected already, whatever the template. Card 2 is connected by way of the output,
to which a route leads, and its routes go with it. -/
theorem loopBay_connection :
    Reachable usbLoop .unavailable loopBay ∧
      (¬ ∃ answer next, loopBay.step (.connect (usbRequest 9 1)) = (.ok answer, next)) ∧
      ∃ port next, loopBay.step (.connect (usbRequest 9 2)) = (.ok (.port port), next) ∧
        next.graph.ports = loopBay.graph.ports ++ [port] ∧
        next.graph.routes ≠ loopBay.graph.routes ∧
        next.step (.disconnect port.id) =
          (.ok .done, { loopBay with graph := { loopBay.graph with lastKey := port.id } }) := by
  have hstart : ofTopology? usbLoop .unavailable = .ok (start usbLoop .empty .unavailable) := rfl
  have hreach : Reachable usbLoop .unavailable loopBay := (Reachable.start hstart).run usbLoopEarly
  refine ⟨hreach, ?_, ?_⟩
  · rw [(connection_exact hreach (usbRequest 9 1)).1]
    rintro ⟨template, hardware, hreceives⟩
    cases loopBay_output.symm.trans hreceives.found
    have hdevice := hreceives.device
    cases hdevice
    exact hreceives.new ⟨9, by decide, by decide⟩
  · have hexact := connection_exact hreach (usbRequest 9 2)
    have hreceives :
        loopBay.Receives (usbRequest 9 2) loopOutput ⟨⟨.outDevice, "usb"⟩, .alsa [1, 0]⟩ :=
      { found := loopBay_output
        device := rfl
        dynamic := rfl
        external := by decide
        role := nofun
        new := by
          unfold Graph.Connected
          decide
        profiles := .inl rfl
        key := by decide }
    obtain ⟨answer, next, hstep⟩ := hexact.1.2 ⟨_, _, hreceives⟩
    obtain ⟨template, port, _, rfl, _, _, _, hports, hundone⟩ := hexact.2 answer next hstep
    refine ⟨port, next, hstep, hports, ?_, hundone⟩
    have hroutes : (loopBay.step (.connect (usbRequest 9 2))).2.graph.routes ≠
        loopBay.graph.routes := by decide
    rw [hstep] at hroutes
    exact hroutes

end Bay

end Patchbay
