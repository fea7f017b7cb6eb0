import Patchbay.Proofs.Hotplug
import Patchbay.Proofs.Route
import Patchbay.Proofs.WellFormed

/-!
# How a graph grows

Whatever clients do, the graph of a bay is that of its topology with additions
(`Graph.Grown`): device ports that have been connected since, and configs that have been
made since, all under fresh keys. Configs may change, but not their places: the key and
the port of a config stay the same for as long as it exists.

Each way in which a graph changes has a lemma here that says that it stays grown. From
these it follows that nothing is lost when a device is disconnected
(`Graph.Grown.withoutDevice_configs`): the initial configs belong to ports of the
topology, and a config that a client has made blocks the disconnection.
-/

namespace Patchbay

/-- The key of a config and the port that it belongs to. Neither ever changes. -/
def Config.place (config : Config) : Key × Key :=
  (config.id, config.portId)

@[simp] theorem Config.place_fst (config : Config) : config.place.1 = config.id :=
  rfl

@[simp] theorem Config.place_snd (config : Config) : config.place.2 = config.portId :=
  rfl

namespace Graph

/-- The places of the configs. -/
def places (graph : Graph) : List (Key × Key) :=
  graph.configs.map Config.place

/-- The graph is that of the topology with device ports and configs added under fresh
keys, and with routes that join its ports and start at ports of the topology. -/
structure Grown (topology : Topology) (graph : Graph) : Prop where
  initial : graph.initialConfigs = topology.configs
  ports : ∃ devices, graph.ports = topology.ports ++ devices ∧
    Table.keys devices = graph.connected.keys ∧ ∀ port ∈ devices, port.role.isDevice = true
  connected_new : ∀ key ∈ graph.connected.keys, topology.lastPortKey < key
  connected_last : ∀ key ∈ graph.connected.keys, key ≤ graph.lastKey
  last : topology.lastPortKey ≤ graph.lastKey
  configs : ∃ made, graph.places = topology.configs.map Config.place ++ made ∧
    ∀ place ∈ made, topology.lastPortKey < place.1
  places_nodup : (graph.places.map (·.1)).Nodup
  place_last : ∀ place ∈ graph.places, place.1 ≤ graph.lastKey
  place_port : ∀ place ∈ graph.places, place.2 ∈ Table.keys graph.ports
  place_apart : ∀ place ∈ graph.places,
    place.1 ∈ Table.keys graph.ports → place.1 = place.2
  wired : Route.Wired (Table.keys graph.ports) (Table.keys topology.ports) graph.routes

variable {topology : Topology} {graph : Graph}

theorem keys_configs (graph : Graph) : Table.keys graph.configs = graph.places.map (·.1) := by
  unfold Table.keys places
  rw [List.map_map]
  rfl

theorem mem_places {place : Key × Key} :
    place ∈ graph.places ↔ ∃ config ∈ graph.configs, config.place = place :=
  List.mem_map

/-- The graph of a topology has grown by nothing. -/
theorem grown_ofTopology (h : topology.WellFormed) : (ofTopology topology).Grown topology where
  initial := rfl
  ports := ⟨[], (List.append_nil _).symm, rfl, nofun⟩
  connected_new := nofun
  connected_last := nofun
  last := Int32.le_refl _
  configs := ⟨[], (List.append_nil _).symm, nofun⟩
  places_nodup := keys_configs (ofTopology topology) ▸ h.configs_nodup
  place_last place hplace := by
    obtain ⟨config, hmem, rfl⟩ := mem_places.1 hplace
    exact Topology.config_le_last (List.mem_map_of_mem hmem)
  place_port place hplace := by
    obtain ⟨config, hmem, rfl⟩ := mem_places.1 hplace
    exact h.config_port config hmem
  place_apart place hplace := by
    obtain ⟨config, hmem, rfl⟩ := mem_places.1 hplace
    exact h.config_apart config hmem
  wired :=
    { sink := h.route_sink
      source := h.route_source
      anchor := fun route hmem => by
        obtain ⟨source, hsource⟩ := List.exists_mem_of_ne_nil _ (h.route_sources route hmem)
        exact ⟨source, hsource, h.route_source route hmem source hsource⟩ }

namespace Grown

/-! ## The keys of ports -/

theorem keys_ports (h : graph.Grown topology) :
    Table.keys graph.ports = Table.keys topology.ports ++ graph.connected.keys := by
  obtain ⟨devices, hports, hkeys, _⟩ := h.ports
  rw [hports, Table.keys_append, hkeys]

theorem port_last (h : graph.Grown topology) {key : Key} (hkey : key ∈ Table.keys graph.ports) :
    key ≤ graph.lastKey := by
  rw [h.keys_ports] at hkey
  rcases List.mem_append.1 hkey with hkey | hkey
  · exact Int32.le_trans (Topology.port_le_last hkey) h.last
  · exact h.connected_last key hkey

theorem port_pos (hwf : topology.WellFormed) (h : graph.Grown topology) {key : Key}
    (hkey : key ∈ Table.keys graph.ports) : 0 < key := by
  rw [h.keys_ports] at hkey
  rcases List.mem_append.1 hkey with hkey | hkey
  · exact hwf.port_pos hkey
  · exact Int32.lt_of_le_of_lt hwf.lastPortKey_nonneg (h.connected_new key hkey)

/-- A fresh key is that of no port. -/
theorem port_not_mem (h : graph.Grown topology) {key : Key} (hkey : graph.lastKey < key) :
    key ∉ Table.keys graph.ports :=
  fun hmem => Int32.not_le.2 hkey (h.port_last hmem)

/-- A fresh key is that of no port of the topology. -/
theorem key_new (h : graph.Grown topology) {key : Key} (hkey : graph.lastKey < key) :
    key ∉ Table.keys topology.ports := by
  intro hmem
  have hle := Int32.le_trans (Topology.port_le_last hmem) h.last
  exact Int32.not_le.2 hkey hle

theorem connected_port (h : graph.Grown topology) {key : Key}
    (hkey : key ∈ graph.connected.keys) : key ∈ Table.keys graph.ports := by
  rw [h.keys_ports]
  exact List.mem_append_right _ hkey

/-- A connected port is none of the topology. -/
theorem connected_not_mem (h : graph.Grown topology) {key : Key}
    (hkey : key ∈ graph.connected.keys) : key ∉ Table.keys topology.ports := by
  intro hmem
  have hle := Topology.port_le_last hmem
  exact Int32.lt_irrefl (Int32.lt_of_le_of_lt hle (h.connected_new key hkey))

theorem ports_nodup (hwf : topology.WellFormed) (h : graph.Grown topology) :
    (Table.keys graph.ports).Nodup := by
  rw [h.keys_ports, List.nodup_append]
  refine ⟨hwf.ports_nodup, graph.connected.keys_nodup, fun key hport other hother he => ?_⟩
  exact h.connected_not_mem hother (he ▸ hport)

/-- Every connected key is that of a device port. -/
theorem connected_device (hwf : topology.WellFormed) (h : graph.Grown topology) {key : Key}
    (hkey : key ∈ graph.connected.keys) :
    ∃ port, Table.find? graph.ports key = some port ∧ port.role.isDevice = true := by
  obtain ⟨devices, hports, hkeys, hdevice⟩ := h.ports
  rw [← hkeys] at hkey
  obtain ⟨port, hmem, rfl⟩ := Table.mem_keys.1 hkey
  refine ⟨port, Table.find?_of_mem (h.ports_nodup hwf) ?_, hdevice port hmem⟩
  rw [hports]
  exact List.mem_append_right _ hmem

theorem configs_nodup (h : graph.Grown topology) : (Table.keys graph.configs).Nodup := by
  rw [keys_configs]
  exact h.places_nodup

/-- The port of a config exists. -/
theorem exists_port (h : graph.Grown topology) {key : Key} {config : Config}
    (hconfig : Table.find? graph.configs key = some config) :
    ∃ port, Table.find? graph.ports config.portId = some port :=
  Table.exists_find?.2 (h.place_port config.place
    (List.mem_map_of_mem (Table.mem_of_find? hconfig)))

/-! ## Changes of configs -/

/-- Configs may change at their places. -/
theorem withPlaces (h : graph.Grown topology) {configs : List Config}
    (hplaces : configs.map Config.place = graph.places) :
    { graph with configs }.Grown topology := by
  have hsame : { graph with configs }.places = graph.places := hplaces
  exact
    { h with
      configs := hsame ▸ h.configs
      places_nodup := hsame ▸ h.places_nodup
      place_last := hsame ▸ h.place_last
      place_port := hsame ▸ h.place_port
      place_apart := hsame ▸ h.place_apart }

/-- The places stay when a config is replaced by one of the same place. -/
theorem places_replace (h : graph.Grown topology) {old config : Config}
    (hold : Table.find? graph.configs config.id = some old) (hplace : old.place = config.place) :
    (Table.replace config graph.configs).map Config.place = graph.places := by
  refine Table.map_replace h.configs_nodup fun other hother => ?_
  have hsame := hold.symm.trans hother
  cases hsame
  exact hplace

/-- A snapshot has the place of the config that it restores. -/
theorem initial_place (h : graph.Grown topology) {key : Key} {initial config : Config}
    (hinitial : Table.find? graph.initialConfigs key = some initial)
    (hconfig : Table.find? graph.configs key = some config) : config.place = initial.place := by
  obtain ⟨made, hmade, _⟩ := h.configs
  have hmem := Table.mem_of_find? hinitial
  rw [h.initial] at hmem
  have hplace : initial.place ∈ graph.places := by
    rw [hmade]
    exact List.mem_append_left _ (List.mem_map_of_mem hmem)
  obtain ⟨other, hother, hsame⟩ := mem_places.1 hplace
  have hid : Keyed.key other = key :=
    (congrArg Prod.fst hsame).trans (Table.key_of_find? hinitial)
  have hfind := Table.find?_of_mem h.configs_nodup hother
  rw [hid, hconfig] at hfind
  cases hfind
  exact hsame

/-- A new config gets a fresh key. -/
theorem addConfig (h : graph.Grown topology) {config : Config}
    (hkey : graph.lastKey < config.id) (hport : config.portId ∈ Table.keys graph.ports) :
    { graph with configs := graph.configs ++ [config], lastKey := config.id }.Grown topology := by
  have hplaces : { graph with configs := graph.configs ++ [config], lastKey := config.id }.places =
      graph.places ++ [config.place] := List.map_append
  have hle : graph.lastKey ≤ config.id := Int32.le_of_lt hkey
  refine
    { h with
      connected_last := fun key hmem => Int32.le_trans (h.connected_last key hmem) hle
      last := Int32.le_trans h.last hle
      configs := ?_, places_nodup := ?_, place_last := ?_, place_port := ?_
      place_apart := ?_ } <;> rw [hplaces]
  · -- the config comes last among those that have been made
    obtain ⟨made, hmade, hnew⟩ := h.configs
    refine ⟨made ++ [config.place], by rw [hmade, List.append_assoc], ?_⟩
    rw [List.forall_mem_append, List.forall_mem_singleton]
    exact ⟨hnew, Int32.lt_of_le_of_lt h.last hkey⟩
  · rw [List.map_append]
    refine Table.nodup_concat h.places_nodup fun hmem => ?_
    obtain ⟨place, hplace, hsame⟩ := List.mem_map.1 hmem
    have hlast := h.place_last place hplace
    rw [hsame] at hlast
    exact Int32.not_le.2 hkey hlast
  · rw [List.forall_mem_append, List.forall_mem_singleton]
    refine ⟨?_, Int32.le_refl _⟩
    intro place hmem
    exact Int32.le_trans (h.place_last place hmem) hle
  · rw [List.forall_mem_append, List.forall_mem_singleton]
    exact ⟨h.place_port, hport⟩
  · rw [List.forall_mem_append, List.forall_mem_singleton]
    refine ⟨h.place_apart, ?_⟩
    intro hports
    exact absurd (h.port_last hports) (Int32.not_le.2 hkey)

/-- A config that is not initial may be removed. -/
theorem removeConfig (h : graph.Grown topology) {key : Key}
    (hnew : Table.find? graph.initialConfigs key = none) :
    { graph with configs := Table.remove graph.configs key }.Grown topology := by
  have hplaces : { graph with configs := Table.remove graph.configs key }.places =
      graph.places.eraseP (·.1 == key) := by
    unfold places Table.remove
    rw [List.eraseP_map]
    rfl
  have hsub : graph.places.eraseP (·.1 == key) ⊆ graph.places := List.eraseP_subset
  refine
    { h with
      configs := ?_, places_nodup := ?_
      place_last := ?_, place_port := ?_, place_apart := ?_ } <;> rw [hplaces]
  · -- what goes has no snapshot, so it comes after the initial configs
    obtain ⟨made, hmade, hmade_new⟩ := h.configs
    refine ⟨made.eraseP (·.1 == key), ?_, fun place hmem => ?_⟩
    · rw [hmade]
      refine List.eraseP_append_right _ ?_
      intro place hmem
      obtain ⟨config, hconfig, rfl⟩ := List.mem_map.1 hmem
      rw [h.initial, Table.find?_eq_none] at hnew
      have hne : config.id ≠ key := fun he => hnew (he ▸ List.mem_map_of_mem hconfig)
      simpa using hne
    · exact hmade_new place (List.mem_of_mem_eraseP hmem)
  · exact h.places_nodup.sublist (List.eraseP_sublist.map _)
  · intro place hmem
    exact h.place_last place (hsub hmem)
  · intro place hmem
    exact h.place_port place (hsub hmem)
  · intro place hmem
    exact h.place_apart place (hsub hmem)

/-! ## Changes of devices -/

theorem withDevice_connected (h : graph.Grown topology) {port : Port}
    (hkey : graph.lastKey < port.id) (template : Key) :
    (graph.withDevice template port).connected.keys = graph.connected.keys ++ [port.id] :=
  KeyMap.keys_insert_of_lt fun key hmem => Int32.lt_of_le_of_lt (h.connected_last key hmem) hkey

/-- A new device port gets a fresh key. -/
theorem withDevice (h : graph.Grown topology) {port : Port} (hkey : graph.lastKey < port.id)
    (hdevice : port.role.isDevice = true) (template : Key) :
    (graph.withDevice template port).Grown topology := by
  have hle : graph.lastKey ≤ port.id := Int32.le_of_lt hkey
  have hnew : topology.lastPortKey < port.id := Int32.lt_of_le_of_lt h.last hkey
  have hconnected := h.withDevice_connected hkey template
  have hkeys := graph.keys_withDevice template port
  refine
    { h with
      ports := ?_, connected_new := ?_, connected_last := ?_, last := Int32.le_trans h.last hle
      place_last := ?_, place_port := ?_, place_apart := ?_, wired := ?_ }
  · -- the port comes last among the devices
    obtain ⟨devices, hports, hdevices, hall⟩ := h.ports
    refine ⟨devices ++ [port], ?_, ?_, ?_⟩
    · show graph.ports ++ [port] = _
      rw [hports, List.append_assoc]
    · rw [Table.keys_append, hdevices, hconnected]
      rfl
    · rw [List.forall_mem_append, List.forall_mem_singleton]
      exact ⟨hall, hdevice⟩
  · rw [hconnected, List.forall_mem_append, List.forall_mem_singleton]
    exact ⟨h.connected_new, hnew⟩
  · rw [hconnected, List.forall_mem_append, List.forall_mem_singleton]
    refine ⟨?_, Int32.le_refl _⟩
    intro key hmem
    exact Int32.le_trans (h.connected_last key hmem) hle
  · intro place hmem
    exact Int32.le_trans (h.place_last place hmem) hle
  · intro place hmem
    rw [hkeys]
    exact List.mem_append_left _ (h.place_port place hmem)
  · intro place hmem hport
    rw [hkeys] at hport
    rcases List.mem_append.1 hport with hport | hport
    · exact h.place_apart place hmem hport
    · -- the key of the port is above those of all configs
      have hlast := h.place_last place hmem
      rw [List.mem_singleton.1 hport] at hlast
      exact absurd hlast (Int32.not_le.2 hkey)
  · rw [hkeys]
    exact h.wired.extend template port.id

theorem withoutDevice_keys (hwf : topology.WellFormed) (h : graph.Grown topology) (port : Key) :
    Table.keys (graph.withoutDevice port).ports = (Table.keys graph.ports).filter (· != port) := by
  show Table.keys (Table.remove graph.ports port) = _
  rw [Table.keys_remove, (h.ports_nodup hwf).erase_eq_filter]

section Disconnection

variable {port : Key} (hwf : topology.WellFormed) (h : graph.Grown topology)
  (hconnected : port ∈ graph.connected.keys)

include h hconnected hwf

/-- No initial config belongs to a connected port. -/
theorem initial_portId_ne : ∀ config ∈ graph.initialConfigs, config.portId ≠ port := by
  intro config hmem he
  rw [h.initial] at hmem
  exact h.connected_not_mem hconnected (he ▸ hwf.config_port config hmem)

/-- A connected port that is not customized has no configs at all. -/
theorem portId_ne (hcustom : graph.customized? port = none) :
    ∀ config ∈ graph.configs, config.portId ≠ port := by
  intro config hmem he
  have hinitial := customized?_eq_none.1 hcustom config hmem he
  exact h.initial_portId_ne hwf hconnected config (Table.mem_of_find? hinitial) he

/-- A disconnection removes no config. -/
theorem withoutDevice_configs (hcustom : graph.customized? port = none) :
    (graph.withoutDevice port).configs = graph.configs := by
  refine List.filter_eq_self.2 fun config hmem => ?_
  simpa using h.portId_ne hwf hconnected hcustom config hmem

/-- A disconnection removes no initial config. -/
theorem withoutDevice_initialConfigs :
    (graph.withoutDevice port).initialConfigs = graph.initialConfigs := by
  refine List.filter_eq_self.2 fun config hmem => ?_
  simpa using h.initial_portId_ne hwf hconnected config hmem

/-- A device port without customized configs may go. -/
theorem withoutDevice (hcustom : graph.customized? port = none) :
    (graph.withoutDevice port).Grown topology := by
  have hplaces : (graph.withoutDevice port).places = graph.places := by
    unfold places
    rw [h.withoutDevice_configs hwf hconnected hcustom]
  have hkeys := h.withoutDevice_keys hwf port
  have herase : (graph.withoutDevice port).connected.keys =
      graph.connected.keys.filter (· != port) := KeyMap.keys_erase
  have hsub : ∀ key ∈ (graph.withoutDevice port).connected.keys,
      key ∈ graph.connected.keys := by
    intro key hmem
    rw [herase] at hmem
    exact (List.mem_filter.1 hmem).1
  constructor
  case initial =>
    rw [h.withoutDevice_initialConfigs hwf hconnected]
    exact h.initial
  case ports =>
    -- the port is found behind those of the topology
    obtain ⟨devices, hports, hdevices, hall⟩ := h.ports
    refine ⟨Table.remove devices port, ?_, ?_, ?_⟩
    · show Table.remove graph.ports port = _
      rw [hports]
      refine List.eraseP_append_right _ ?_
      intro entry hmem
      have hne : Keyed.key entry ≠ port :=
        fun he => h.connected_not_mem hconnected (he ▸ List.mem_map_of_mem hmem)
      simpa using hne
    · rw [Table.keys_remove, hdevices, graph.connected.keys_nodup.erase_eq_filter, herase]
    · intro device hmem
      exact hall device (Table.mem_of_mem_remove hmem)
  case connected_new =>
    intro key hmem
    exact h.connected_new key (hsub key hmem)
  case connected_last =>
    intro key hmem
    exact h.connected_last key (hsub key hmem)
  case last => exact h.last
  case configs =>
    rw [hplaces]
    exact h.configs
  case places_nodup =>
    rw [hplaces]
    exact h.places_nodup
  case place_last =>
    rw [hplaces]
    exact h.place_last
  case place_port =>
    intro place hmem
    rw [hplaces] at hmem
    obtain ⟨config, hconfig, rfl⟩ := mem_places.1 hmem
    have hne := h.portId_ne hwf hconnected hcustom config hconfig
    rw [hkeys]
    exact List.mem_filter.2 ⟨h.place_port _ hmem, by simpa using hne⟩
  case place_apart =>
    intro place hmem hport
    rw [hplaces] at hmem
    rw [hkeys] at hport
    exact h.place_apart place hmem (List.mem_filter.1 hport).1
  case wired =>
    rw [hkeys]
    exact h.wired.prune (h.connected_not_mem hconnected)

end Disconnection

end Grown

end Graph

end Patchbay
