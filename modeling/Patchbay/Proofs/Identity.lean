import Patchbay.Proofs.SoundBay

/-!
# The identity of devices

A device is told from others by its kind, its connection and its address. The first two come from
the template that it is connected by, the address from the request, and a device that is connected
already is refused, whatever template it came by then. The check looks up the ports of all
connected keys, so it is as good as the connected keys and the port table are in step: then the
devices of connected ports are all different (`Graph.Distinct`), and a device is refused as
connected exactly as long as it is (`Bay.no_device_connected_twice`).
-/

namespace Patchbay

namespace Graph

/-- The device behind a port. -/
def device? (graph : Graph) (port : Key) : Option Device :=
  (Table.find? graph.ports port).bind (·.role.device?)

/-- The device is behind a connected port. -/
def Connected (graph : Graph) (device : Device) : Prop :=
  ∃ port ∈ graph.connected.keys, graph.device? port = some device

/-- No two connected ports have the same device. -/
def Distinct (graph : Graph) : Prop :=
  ∀ port ∈ graph.connected.keys, ∀ other ∈ graph.connected.keys,
    graph.device? port = graph.device? other → port = other

/-- The request names a template for external devices, and gives `device` an address. -/
def Offers (graph : Graph) (request : Port) (device : Device) : Prop :=
  ∃ template hardware address, Table.find? graph.ports request.id = some template ∧
    template.role.device? = some hardware ∧ template.profiles = [] ∧
    hardware.isExternal = true ∧ request.requestedAddress = .ok address ∧
    device = { hardware with address }

variable {topology : Topology} {graph next : Graph} {request port : Port} {device : Device}
  {key other : Key} {simulated : Bool} {query : ProfileQuery}

/-! ## The identity check -/

theorem portOf?_eq_none : graph.portOf? device = none ↔ ¬ graph.Connected device := by
  unfold portOf? Connected device?
  rw [List.find?_eq_none]
  simp

theorem connected_of_portOf? (h : graph.portOf? device = some key) :
    key ∈ graph.connected.keys ∧ graph.device? key = some device := by
  unfold portOf? at h
  have hdevice := List.find?_some h
  exact ⟨List.mem_of_find?_eq_some h, eq_of_beq hdevice⟩

/-- A device is connected under the next key when it is not connected and all else is in order. -/
theorem connect_of_offers (hoffers : graph.Offers request device)
    (hnew : ¬ graph.Connected device) {profiles : List Profile}
    (hprofiles : graph.profilesFor request.id device simulated query = .ok profiles)
    (hkey : graph.lastKey.next? = some key) :
    ∃ port, port.id = key ∧ port.role.device? = some device ∧
      graph.connect request simulated query = .ok (port, graph.withDevice request.id port) := by
  obtain ⟨template, hardware, address, htemplate, hdevice, hdynamic, hexternal, haddress, rfl⟩ :=
    hoffers
  have hid : template.id = request.id := Table.key_of_find? htemplate
  refine ⟨devicePort template request address profiles key, rfl,
    Role.device?_withAddress hdevice, ?_⟩
  rw [connect_eq_ok]
  refine ⟨template, hardware, address, profiles, key, htemplate, hdevice, hdynamic, hexternal,
    haddress, portOf?_eq_none.2 hnew, ?_, hkey, rfl, ?_⟩
  · rw [hid]
    exact hprofiles
  · rw [hid]

/-- A device is refused as connected exactly when it is offered and connected. -/
theorem connect_eq_alreadyConnected :
    graph.connect request simulated query = .error (.alreadyConnected device other) ↔
      graph.Offers request device ∧ graph.portOf? device = some other := by
  unfold connect port
  simp only [bind_eq_error, present_eq_ok, present_eq_error, require_eq_ok, require_eq_error,
    reduceCtorEq, and_false, false_or]
  constructor
  · rintro ⟨template, htemplate, hardware, hdevice, _, hdynamic, _, hexternal, h⟩
    rcases h with haddress | ⟨address, haddress, h⟩
    · cases Port.requestedAddress_eq_error haddress
    · cases hother : graph.portOf? { hardware with address } with
      | some found =>
        rw [hother] at h
        cases h
        exact ⟨⟨template, hardware, address, htemplate, hdevice, hdynamic, hexternal, haddress,
          rfl⟩, hother⟩
      | none =>
        -- what is checked after the identity has other faults
        rw [hother] at h
        simp only [bind_eq_error, freshKey, present_eq_error, reduceCtorEq, and_false, false_or] at h
        rcases h with hprofiles | ⟨_, _, _, _, h⟩
        · cases profilesFor_eq_error hprofiles
        · cases h
  · rintro ⟨⟨template, hardware, address, htemplate, hdevice, hdynamic, hexternal, haddress,
      rfl⟩, hother⟩
    refine ⟨template, htemplate, hardware, hdevice, (), hdynamic, (), hexternal,
      .inr ⟨address, haddress, ?_⟩⟩
    rw [hother]
    rfl

/-! ## Devices that come and go -/

theorem device?_eq_some : graph.device? key = some device ↔
    ∃ port, Table.find? graph.ports key = some port ∧ port.role.device? = some device :=
  Option.bind_eq_some_iff

/-- A port that is there keeps its device. -/
theorem device?_withDevice_old (hmem : key ∈ Table.keys graph.ports) (template : Key) :
    (graph.withDevice template port).device? key = graph.device? key := by
  obtain ⟨entry, hentry⟩ := Table.exists_find?.2 hmem
  have hafter : Table.find? (graph.withDevice template port).ports key = some entry :=
    Table.find?_append hentry
  unfold device?
  rw [hentry, hafter]

/-- A port with a new key brings its device. -/
theorem device?_withDevice_new (hnew : port.id ∉ Table.keys graph.ports) (template : Key) :
    (graph.withDevice template port).device? port.id = port.role.device? := by
  have hfound : Table.find? (graph.withDevice template port).ports port.id = some port :=
    Table.find?_concat hnew
  unfold device?
  rw [hfound]
  rfl

/-- Other ports keep their devices. -/
theorem device?_withoutDevice (hnd : (Table.keys graph.ports).Nodup)
    (hmem : key ∈ Table.keys graph.ports) (hne : key ≠ other) :
    (graph.withoutDevice other).device? key = graph.device? key := by
  obtain ⟨entry, hentry⟩ := Table.exists_find?.2 hmem
  have hafter : Table.find? (graph.withoutDevice other).ports key = some entry :=
    Table.find?_remove hnd hentry hne
  unfold device?
  rw [hentry, hafter]

/-- Only ports and connected keys matter. -/
theorem Distinct.congr (h : graph.Distinct) (hports : next.ports = graph.ports)
    (hconnected : next.connected = graph.connected) : next.Distinct := by
  unfold Distinct device?
  rw [hports, hconnected]
  exact h

/-- A new device differs from those that are connected. -/
theorem Distinct.withDevice (h : graph.Distinct) (hgrown : graph.Grown topology)
    (hkey : graph.lastKey < port.id) (hdevice : port.role.device? = some device)
    (hnew : ¬ graph.Connected device) (template : Key) :
    (graph.withDevice template port).Distinct := by
  have hlast : (graph.withDevice template port).device? port.id = some device := by
    rw [device?_withDevice_new (hgrown.port_not_mem hkey)]
    exact hdevice
  have hold : ∀ key ∈ graph.connected.keys,
      (graph.withDevice template port).device? key = graph.device? key := by
    intro key hmem
    exact device?_withDevice_old (hgrown.connected_port hmem) template
  have hapart : ∀ key ∈ graph.connected.keys,
      (graph.withDevice template port).device? key ≠ some device := by
    intro key hmem he
    rw [hold key hmem] at he
    exact hnew ⟨key, hmem, he⟩
  intro one hone two htwo he
  rw [hgrown.withDevice_connected hkey] at hone htwo
  rcases List.mem_append.1 hone with hone | hone <;> rcases List.mem_append.1 htwo with htwo | htwo
  · rw [hold one hone, hold two htwo] at he
    exact h one hone two htwo he
  · rw [List.mem_singleton.1 htwo, hlast] at he
    exact absurd he (hapart one hone)
  · rw [List.mem_singleton.1 hone, hlast] at he
    exact absurd he.symm (hapart two htwo)
  · rw [List.mem_singleton.1 hone, List.mem_singleton.1 htwo]

section Disconnection

variable (hwf : topology.WellFormed) (hgrown : graph.Grown topology)

include hwf hgrown

/-- The ports that stay connected are others than the one that goes, and keep their devices. -/
theorem connected_withoutDevice (hmem : key ∈ (graph.withoutDevice other).connected.keys) :
    key ∈ graph.connected.keys ∧ key ≠ other ∧
      (graph.withoutDevice other).device? key = graph.device? key := by
  have hmem : key ∈ (graph.connected.erase other).keys := hmem
  rw [KeyMap.keys_erase] at hmem
  obtain ⟨hkey, hne⟩ := List.mem_filter.1 hmem
  have hne : key ≠ other := by simpa using hne
  refine ⟨hkey, hne, ?_⟩
  exact device?_withoutDevice (hgrown.ports_nodup hwf) (hgrown.connected_port hkey) hne

theorem Distinct.withoutDevice (h : graph.Distinct) (port : Key) :
    (graph.withoutDevice port).Distinct := by
  intro one hone two htwo he
  obtain ⟨hone, _, hdevice⟩ := connected_withoutDevice hwf hgrown hone
  obtain ⟨htwo, _, hdevice'⟩ := connected_withoutDevice hwf hgrown htwo
  rw [hdevice, hdevice'] at he
  exact h one hone two htwo he

/-- A device whose port goes is connected no more. -/
theorem Distinct.not_connected (h : graph.Distinct) (hconnected : key ∈ graph.connected.keys)
    (hdevice : graph.device? key = some device) :
    ¬ (graph.withoutDevice key).Connected device := by
  rintro ⟨other, hother, hsame⟩
  obtain ⟨hother, hne, hkept⟩ := connected_withoutDevice hwf hgrown hother
  rw [hkept, ← hdevice] at hsame
  exact hne (h other hother key hconnected hsame)

/-- What is offered by way of another port is still offered when a port has gone. -/
theorem Offers.withoutDevice (h : graph.Offers request device) (hne : request.id ≠ key) :
    (graph.withoutDevice key).Offers request device := by
  obtain ⟨template, hardware, address, htemplate, hrest⟩ := h
  refine ⟨template, hardware, address, ?_, hrest⟩
  exact Table.find?_remove (hgrown.ports_nodup hwf) htemplate hne

end Disconnection

end Graph

namespace Bay

variable {topology : Topology} {query : ProfileQuery} {bay next : Bay} {request : Request}
  {answer : Answer} {device : Device}

/-- Every effect keeps connected devices distinct. -/
theorem Effect.distinct (hwf : topology.WellFormed) (hs : bay.Sound topology)
    (h : bay.graph.Distinct) (he : Effect bay request answer next) : next.graph.Distinct := by
  cases he with
  | connect hconnect =>
    obtain ⟨template, hardware, address, profiles, key, _, hdevice, _, _, _, hother, _, hkey,
      rfl, rfl⟩ := Graph.connect_eq_ok.1 hconnect
    apply h.withDevice hs.graph (Key.lt_of_next? hkey)
    · exact Role.device?_withAddress hdevice
    · exact Graph.portOf?_eq_none.1 hother
  | disconnect hdisconnect =>
    obtain ⟨_, _, _, rfl⟩ := Graph.disconnect_eq_ok.1 hdisconnect
    exact h.withoutDevice hwf hs.graph _
  | _ => exact h.congr rfl rfl

theorem distinct_of_ofTopology? (h : ofTopology? topology query = .ok bay) :
    bay.graph.Distinct := by
  obtain ⟨_, ledger, _, rfl⟩ := ofTopology?_eq_ok h
  intro port hport
  cases hport

theorem Reachable.distinct (h : Reachable topology query bay) : bay.graph.Distinct := by
  refine h.invariant (motive := fun bay => bay.graph.Distinct)
    (fun _ => distinct_of_ofTopology?) ?_
  intro bay next request answer hsound hdistinct he
  exact he.distinct h.wellFormed hsound hdistinct

/-- All that the connection of a device takes, but for the device not to be connected. -/
structure CanConnect (bay : Bay) (request : Port) (device : Device) : Prop where
  offers : bay.graph.Offers request device
  profiles : ∃ profiles, bay.graph.profilesFor request.id device bay.debug.simulateConnections
    bay.query = .ok profiles
  key : bay.graph.lastKey ≠ Int32.maxValue

/-- The request connects the device, and the bay has a port for it afterwards. -/
def Connects (bay : Bay) (request : Port) (device : Device) : Prop :=
  ∃ port next, bay.step (.connect request) = (.ok (.port port), next) ∧
    port.id ∈ next.graph.connected.keys ∧ next.graph.device? port.id = some device

/-- A device that is not connected can be connected. -/
theorem CanConnect.connects {request : Port} (h : bay.CanConnect request device)
    (hs : bay.Sound topology) (hnew : ¬ bay.graph.Connected device) :
    bay.Connects request device := by
  obtain ⟨profiles, hprofiles⟩ := h.profiles
  obtain ⟨key, hkey⟩ := Option.ne_none_iff_exists'.1 (mt Key.next?_eq_none.1 h.key)
  obtain ⟨port, rfl, hdevice, hconnect⟩ :=
    Graph.connect_of_offers h.offers hnew hprofiles hkey
  have hlt := Key.lt_of_next? hkey
  refine ⟨port, { bay with graph := bay.graph.withDevice request.id port }, ?_, ?_, ?_⟩
  · apply step_of_respond
    simp only [respond, bind_eq_ok, pure_eq_ok]
    exact ⟨(port, _), hconnect, rfl⟩
  · rw [hs.graph.withDevice_connected hlt]
    exact List.mem_concat_self
  · rw [Graph.device?_withDevice_new (hs.graph.port_not_mem hlt)]
    exact hdevice

/-- A request to connect a device has the fault of the graph. -/
theorem connect_of_refused {request : Port} {fault : Fault}
    (h : (bay.step (.connect request)).1 = .error fault) :
    bay.graph.connect request bay.debug.simulateConnections bay.query = .error fault := by
  rw [step_eq_error] at h
  simp only [respond, bind_eq_error] at h
  rcases h with h | ⟨_, _, h⟩
  · exact h
  · cases h

/-- A disconnection that is granted takes the port away. -/
theorem step_disconnect {port : Key} (h : (bay.step (.disconnect port)).1 = .ok .done) :
    port ∈ bay.graph.connected.keys ∧
      (bay.step (.disconnect port)).2 = { bay with graph := bay.graph.withoutDevice port } := by
  rcases step_cases bay (.disconnect port) with ⟨answer, next, hstep, he⟩ | ⟨fault, hstep⟩
  · cases he with
    | disconnect hdisconnect =>
      obtain ⟨_, hconnected, _, rfl⟩ := Graph.disconnect_eq_ok.1 hdisconnect
      rw [hstep]
      exact ⟨KeyMap.mem_keys.2 hconnected, rfl⟩
  · rw [hstep] at h
    cases h

/-- **No device is connected twice.** In a reachable bay, different connected keys are those of
ports with different devices. A request is refused because its device is connected only if that is
so, by the port that the fault names; otherwise it is granted if nothing else is in its way. After
a port has been disconnected its device is not connected, and any request that could have
connected it but for the identity check, by a template that is still there, connects it again. -/
theorem no_device_connected_twice (h : Reachable topology query bay) :
    (∀ port ∈ bay.graph.connected.keys, ∀ other ∈ bay.graph.connected.keys, port ≠ other →
      ∃ one two device device', Table.find? bay.graph.ports port = some one ∧
        Table.find? bay.graph.ports other = some two ∧ one.role.device? = some device ∧
        two.role.device? = some device' ∧ device ≠ device') ∧
    (∀ request device other,
      (bay.step (.connect request)).1 = .error (.alreadyConnected device other) →
        bay.graph.Offers request device ∧ other ∈ bay.graph.connected.keys ∧
          bay.graph.device? other = some device) ∧
    (∀ request device, bay.CanConnect request device → ¬ bay.graph.Connected device →
      bay.Connects request device) ∧
    ∀ port device, bay.graph.device? port = some device →
      (bay.step (.disconnect port)).1 = .ok .done →
        ¬ (bay.step (.disconnect port)).2.graph.Connected device ∧
        ∀ request, bay.CanConnect request device → request.id ≠ port →
          (bay.step (.disconnect port)).2.Connects request device := by
  have hwf := h.wellFormed
  have hgrown := h.sound.graph
  have hfound : ∀ port ∈ bay.graph.connected.keys,
      ∃ entry device, Table.find? bay.graph.ports port = some entry ∧
        entry.role.device? = some device ∧ bay.graph.device? port = some device := by
    intro port hport
    obtain ⟨entry, hentry, hdevice⟩ := hgrown.connected_device hwf hport
    obtain ⟨device, hdevice⟩ := Option.isSome_iff_exists.1 hdevice
    exact ⟨entry, device, hentry, hdevice, Graph.device?_eq_some.2 ⟨entry, hentry, hdevice⟩⟩
  refine ⟨?_, ?_, ?_, ?_⟩
  · intro port hport other hother hne
    obtain ⟨one, device, hone, hdevice, hport_device⟩ := hfound port hport
    obtain ⟨two, device', htwo, hdevice', hother_device⟩ := hfound other hother
    refine ⟨one, two, device, device', hone, htwo, hdevice, hdevice', ?_⟩
    intro he
    apply hne
    apply h.distinct port hport other hother
    rw [hport_device, hother_device, he]
  · intro request device other hrefused
    obtain ⟨hoffers, hother⟩ := Graph.connect_eq_alreadyConnected.1 (connect_of_refused hrefused)
    exact ⟨hoffers, Graph.connected_of_portOf? hother⟩
  · intro request device hcan hnew
    exact hcan.connects h.sound hnew
  · intro port device hdevice hgranted
    have hsound := (h.step (.disconnect port)).sound
    obtain ⟨hconnected, hnext⟩ := step_disconnect hgranted
    rw [hnext] at hsound ⊢
    have hgone := h.distinct.not_connected hwf hgrown hconnected hdevice
    refine ⟨hgone, ?_⟩
    intro request hcan hne
    have hcan' : CanConnect { bay with graph := bay.graph.withoutDevice port } request device :=
      { offers := hcan.offers.withoutDevice hwf hgrown hne
        profiles := hcan.profiles
        key := hcan.key }
    exact hcan'.connects hsound hgone

/-- A USB output and a USB input with the same address. -/
def headsetSession : List Request :=
  [.setDebug .simulated, .plug 6 1, .plug 7 1]

theorem headsetSession_devices_distinct :
    ∃ bay device request, bay = ((builtIn .unavailable).run headsetSession).2 ∧
      device = ⟨⟨.outDevice, "usb"⟩, .alsa [1, 0]⟩ ∧ Request.plug 6 1 = .connect request ∧
      Reachable .builtIn .unavailable bay ∧ bay.graph.connected.keys = [8, 9] ∧
      (∃ one two device device', Table.find? bay.graph.ports 8 = some one ∧
        Table.find? bay.graph.ports 9 = some two ∧ one.role.device? = some device ∧
        two.role.device? = some device' ∧ device ≠ device') ∧
      (bay.step (.connect request)).1 = .error (.alreadyConnected device 8) ∧
      bay.graph.device? 8 = some device ∧
      (bay.step (.disconnect 8)).2.Connects request device := by
  have hstart : ofTopology? .builtIn .unavailable = .ok (builtIn .unavailable) := rfl
  have hreach := (Reachable.start hstart).run headsetSession
  obtain ⟨hapart, hrefused, _, hagain⟩ := no_device_connected_twice hreach
  have hrefusal : (((builtIn .unavailable).run headsetSession).2.step (.plug 6 1)).1 =
      .error (.alreadyConnected ⟨⟨.outDevice, "usb"⟩, .alsa [1, 0]⟩ 8) := rfl
  obtain ⟨hoffers, _, hdevice⟩ := hrefused _ _ _ hrefusal
  refine ⟨_, _, _, rfl, rfl, rfl, hreach, by decide, ?_, hrefusal, hdevice, ?_⟩
  · exact hapart 8 (by decide) 9 (by decide) (by decide)
  · refine (hagain 8 _ hdevice rfl).2 _ ?_ (by decide)
    exact ⟨hoffers, ⟨_, rfl⟩, by decide⟩

end Bay

end Patchbay
