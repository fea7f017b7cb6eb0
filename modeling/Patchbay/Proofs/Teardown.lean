import Patchbay.Proofs.SoundBay

/-!
# Taking a bay down

Whatever clients have done to a bay, they can take it down again: close its streams, remove its
patches, reset its configs and disconnect its devices. Within each stage any order will do, no
request is refused, and what is left are the tables of the topology, entry by entry.

`Bay.Standing` says what is still to be taken down, with one lemma for each kind of request that
takes an item off. Routes need an invariant of their own, since connected devices leave their marks
on the routes of others: without the connected ports the routes are those of the topology
(`Bay.Reachable.routes_without`).
-/

namespace Patchbay

/-! ## Resetting a config -/

namespace Graph

variable {graph : Graph} {config : Key}

/-- The configs after the one with the key `config` has been reset. -/
def resetConfigs (graph : Graph) (config : Key) : List Config :=
  match Table.find? graph.initialConfigs config with
  | some initial => Table.replace initial graph.configs
  | none => Table.remove graph.configs config

theorem mem_keys_resetConfigs {other : Key} (hmem : other ∈ Table.keys graph.configs)
    (hne : other ≠ config) : other ∈ Table.keys (graph.resetConfigs config) := by
  unfold resetConfigs
  split
  · rw [Table.keys_replace]
    exact hmem
  · rw [Table.keys_remove]
    exact (List.mem_erase_of_ne hne).2 hmem

/-- What there is after a reset is in its initial state, or another config as before. -/
theorem mem_resetConfigs {entry : Config} (hnd : (Table.keys graph.configs).Nodup)
    (hmem : config ∈ Table.keys graph.configs) (h : entry ∈ graph.resetConfigs config) :
    Table.find? graph.initialConfigs entry.id = some entry ∨
      entry ∈ graph.configs ∧ entry.id ≠ config := by
  unfold resetConfigs at h
  split at h
  · rename_i initial hinitial
    have hid : Keyed.key initial = config := Table.key_of_find? hinitial
    subst hid
    rcases (Table.mem_replace hnd hmem).1 h with rfl | hother
    · exact .inl hinitial
    · exact .inr hother
  · exact .inr ((Table.mem_remove hnd).1 h)

end Graph

namespace Bay

variable {topology : Topology} {query : ProfileQuery} {bay next : Bay} {request : Request}
  {answer : Answer}

/-- A config that exists and has neither stream nor patch can be reset. -/
theorem respond_resetConfig {config : Key} (hholds : Table.holds bay.graph.configs config = true)
    (hclosed : bay.hasStream config = false) (hfree : bay.ledger.using? config = none) :
    bay.respond (.resetConfig config) =
      .ok (.done, bay.withConfigs (bay.graph.resetConfigs config)) := by
  simp only [respond, bind_eq_ok, require_eq_ok, hclosed, hfree, Graph.resetConfigs]
  refine ⟨(), hholds, (), rfl, ?_⟩
  cases Table.find? bay.graph.initialConfigs config <;> rfl

/-! ## Routes -/

/-- Without the connected ports, the routes stay what they are. -/
theorem Effect.routes_without (h : bay.Sound topology) (he : Effect bay request answer next) :
    Route.without next.graph.connected.keys next.graph.routes =
      Route.without bay.graph.connected.keys bay.graph.routes := by
  cases he with
  | @connect _ port _ hconnect =>
    obtain ⟨_, hkey, _, rfl⟩ := Graph.connect_eq_withDevice hconnect
    have hlt := Key.lt_of_next? hkey
    rw [h.graph.withDevice_connected hlt]
    -- the key of the new port is fresh, so no route mentions it
    exact Route.without_extend (h.graph.wired.not_mentions (h.graph.port_not_mem hlt)) _
  | @disconnect port _ hdisconnect =>
    obtain ⟨_, hconnected, _, rfl⟩ := Graph.disconnect_eq_ok.1 hdisconnect
    have hport : port ∈ bay.graph.connected.keys := KeyMap.mem_keys.2 hconnected
    show Route.without (bay.graph.connected.erase port).keys
      (Route.prune port bay.graph.routes) = _
    rw [Route.without_prune, KeyMap.keys_erase]
    refine Route.without_congr fun key => ?_
    by_cases hkey : key = port
    · simp [hkey, hport]
    · simp [hkey]
  | _ => rfl

theorem Reachable.routes_without (h : Reachable topology query bay) :
    Route.without bay.graph.connected.keys bay.graph.routes = topology.routes := by
  refine h.invariant ?_ fun hsound hroutes he => (he.routes_without hsound).trans hroutes
  intro bay hstart
  obtain ⟨_, ledger, _, rfl⟩ := ofTopology?_eq_ok hstart
  exact Route.without_nil

/-! ## What is still to be taken down -/

/-- There are no streams, patches and devices, nothing is on record as used, and the tables are
those of the topology. -/
structure Bare (topology : Topology) (bay : Bay) : Prop where
  streams : bay.streams = ∅
  patches : bay.ledger.patches = []
  usage : bay.ledger.usage = .empty
  connected : bay.graph.connected = ∅
  ports : bay.graph.ports = topology.ports
  configs : bay.graph.configs = topology.configs
  initialConfigs : bay.graph.initialConfigs = topology.configs
  routes : bay.graph.routes = topology.routes

/-- A reachable bay whose streams, patches and devices are those listed, and whose configs are all
in their initial state but for those listed. -/
structure Standing (topology : Topology) (query : ProfileQuery)
    (streams patches configs devices : List Key) (bay : Bay) : Prop where
  reach : Reachable topology query bay
  streams_perm : streams.Perm bay.streams.keys
  patches_perm : patches.Perm (Table.keys bay.ledger.patches)
  configs_nodup : configs.Nodup
  configs_mem : ∀ key ∈ configs, key ∈ Table.keys bay.graph.configs
  initial : ∀ config ∈ bay.graph.configs,
    config.id ∈ configs ∨ Table.find? topology.configs config.id = some config
  devices_perm : devices.Perm bay.graph.connected.keys

namespace Standing

variable {streams patches configs devices : List Key} {key : Key}

theorem closeStream (h : Standing topology query (key :: streams) patches configs devices bay) :
    (bay.step (.closeStream key)).1 = .ok .done ∧
      Standing topology query streams patches configs devices
        (bay.step (.closeStream key)).2 := by
  have hmem : key ∈ bay.streams.keys := h.streams_perm.subset List.mem_cons_self
  have hopen : bay.hasStream key = true := KeyMap.mem_keys.1 hmem
  have hrespond : bay.respond (.closeStream key) =
      .ok (.done, { bay with streams := bay.streams.erase key }) := by
    simp only [respond, bind_eq_ok, require_eq_ok, pure_eq_ok]
    exact ⟨(), hopen, trivial⟩
  have hreach := h.reach.step (.closeStream key)
  rw [step_of_respond hrespond] at hreach ⊢
  refine ⟨rfl, { h with reach := hreach, streams_perm := ?_ }⟩
  exact KeyMap.perm_keys_erase h.streams_perm

theorem resetPatch (h : Standing topology query streams (key :: patches) configs devices bay) :
    (bay.step (.resetPatch key)).1 = .ok .done ∧
      Standing topology query streams patches configs devices
        (bay.step (.resetPatch key)).2 := by
  have hmem : key ∈ Table.keys bay.ledger.patches := h.patches_perm.subset List.mem_cons_self
  obtain ⟨ledger, hreset, hrest⟩ : ∃ ledger, bay.ledger.reset key = .ok ledger ∧
      ledger.patches = Table.remove bay.ledger.patches key :=
    ⟨_, Ledger.reset_eq_ok.2 ⟨hmem, rfl⟩, rfl⟩
  have hreach := h.reach.step (.resetPatch key)
  rw [step_of_respond (respond_resetPatch_of_ok hreset)] at hreach ⊢
  refine ⟨rfl, { h with reach := hreach, patches_perm := ?_ }⟩
  show patches.Perm (Table.keys ledger.patches)
  rw [hrest, Table.keys_remove]
  exact (List.cons_perm_iff_perm_erase.1 h.patches_perm).2

/-- A config without streams and patches goes back to its initial state, or goes. -/
theorem resetConfig (h : Standing topology query [] [] (key :: configs) devices bay) :
    (bay.step (.resetConfig key)).1 = .ok .done ∧
      Standing topology query [] [] configs devices (bay.step (.resetConfig key)).2 := by
  obtain ⟨hkey, hnodup⟩ := List.nodup_cons.1 h.configs_nodup
  have hsound := h.reach.sound
  have hmem : key ∈ Table.keys bay.graph.configs := h.configs_mem key List.mem_cons_self
  -- nothing holds the config any more
  have hclosed : bay.hasStream key = false := by
    have hnone : bay.streams.keys = [] := h.streams_perm.symm.eq_nil
    refine Bool.eq_false_iff.2 fun hopen => ?_
    have hstream := KeyMap.mem_keys.2 hopen
    rw [hnone] at hstream
    cases hstream
  have hfree : bay.ledger.using? key = none := by
    have hnone : bay.ledger.patches = [] := List.map_eq_nil_iff.1 h.patches_perm.symm.eq_nil
    refine hsound.ledger.using?_eq_none_iff.2 fun patch hpatch => ?_
    rw [hnone] at hpatch
    cases hpatch
  have hrespond := respond_resetConfig (Table.holds_iff.2 hmem) hclosed hfree
  have hreach := h.reach.step (.resetConfig key)
  rw [step_of_respond hrespond] at hreach ⊢
  refine ⟨rfl, { h with
    reach := hreach, configs_nodup := hnodup, configs_mem := ?_, initial := ?_ }⟩
  · intro other hother
    have hne : other ≠ key := fun he => hkey (he ▸ hother)
    exact Graph.mem_keys_resetConfigs (h.configs_mem other (.tail _ hother)) hne
  · intro config hconfig
    rcases Graph.mem_resetConfigs hsound.graph.configs_nodup hmem hconfig with
      hinitial | ⟨hold, hne⟩
    · rw [hsound.graph.initial] at hinitial
      exact .inr hinitial
    · refine (h.initial config hold).imp_left fun hlisted => ?_
      exact (List.mem_cons.1 hlisted).resolve_left hne

/-- A device without customized configs is disconnected. -/
theorem disconnect (h : Standing topology query [] [] [] (key :: devices) bay) :
    (bay.step (.disconnect key)).1 = .ok .done ∧
      Standing topology query [] [] [] devices (bay.step (.disconnect key)).2 := by
  have hgraph := h.reach.sound.graph
  have hwf := h.reach.wellFormed
  have hmem : key ∈ bay.graph.connected.keys := h.devices_perm.subset List.mem_cons_self
  -- every config is in its initial state, so the port is not customized
  have hcustom : bay.graph.customized? key = none := by
    refine Graph.customized?_eq_none.2 fun config hconfig _ => ?_
    rw [hgraph.initial]
    exact (h.initial config hconfig).resolve_left List.not_mem_nil
  have hdisconnect := Graph.disconnect_eq_ok.2
    ⟨hgraph.connected_device hwf hmem, KeyMap.mem_keys.1 hmem, hcustom, rfl⟩
  have hconfigs := hgraph.withoutDevice_configs hwf hmem hcustom
  have hrespond : bay.respond (.disconnect key) =
      .ok (.done, { bay with graph := bay.graph.withoutDevice key }) := by
    simp only [respond, bind_eq_ok, pure_eq_ok]
    exact ⟨_, hdisconnect, rfl⟩
  have hreach := h.reach.step (.disconnect key)
  rw [step_of_respond hrespond] at hreach ⊢
  refine ⟨rfl, { h with
    reach := hreach, configs_mem := ?_, initial := ?_, devices_perm := ?_ }⟩
  · intro other hother
    cases hother
  · intro config hconfig
    exact h.initial config (hconfigs ▸ hconfig)
  · exact KeyMap.perm_keys_erase h.devices_perm

/-- Configs that are all in their initial state are those of the topology. -/
theorem configs_eq (h : Standing topology query streams patches [] devices bay) :
    bay.graph.configs = topology.configs := by
  have hfound : ∀ config ∈ bay.graph.configs,
      Table.find? topology.configs config.id = some config :=
    fun config hconfig => (h.initial config hconfig).resolve_left List.not_mem_nil
  refine Table.eq_of_keys h.reach.wellFormed.configs_nodup ?_ hfound
  obtain ⟨made, hplaces, hnew⟩ := h.reach.sound.graph.configs
  have hmade : made = [] := by
    refine List.eq_nil_iff_forall_not_mem.2 fun place hplace => ?_
    have hmem : place ∈ bay.graph.places := hplaces ▸ List.mem_append_right _ hplace
    obtain ⟨config, hconfig, rfl⟩ := Graph.mem_places.1 hmem
    -- the key of a config of the topology is not new
    have hold : config ∈ topology.configs := Table.mem_of_find? (hfound config hconfig)
    have hle := Topology.config_le_last (List.mem_map_of_mem hold)
    exact Int32.not_le.2 (hnew _ hplace) hle
  rw [hmade, List.append_nil] at hplaces
  rw [Graph.keys_configs, hplaces, List.map_map]
  rfl

/-- When nothing is left to be taken down, the bay is bare. -/
theorem bare (h : Standing topology query [] [] [] [] bay) : bay.Bare topology := by
  have hsound := h.reach.sound
  have hconnected : bay.graph.connected.keys = [] := h.devices_perm.symm.eq_nil
  have hpatches : bay.ledger.patches = [] := List.map_eq_nil_iff.1 h.patches_perm.symm.eq_nil
  constructor
  case streams => exact KeyMap.eq_empty_of_keys h.streams_perm.symm.eq_nil
  case patches => exact hpatches
  case usage => exact hsound.ledger.usage_eq_empty hpatches
  case connected => exact KeyMap.eq_empty_of_keys hconnected
  case ports =>
    obtain ⟨devices, hports, hdevices, _⟩ := hsound.graph.ports
    rw [hconnected] at hdevices
    rw [hports, List.map_eq_nil_iff.1 hdevices, List.append_nil]
  case configs => exact h.configs_eq
  case initialConfigs => exact hsound.graph.initial
  case routes =>
    have hroutes := h.reach.routes_without
    rw [hconnected, Route.without_nil] at hroutes
    exact hroutes

end Standing

/-! ## The whole teardown -/

/-- A run through a stage is granted throughout when each request takes one item off. -/
theorem run_stage {motive : List Key → Bay → Prop} (request : Key → Request)
    (hstep : ∀ key rest bay, motive (key :: rest) bay →
      (bay.step (request key)).1 = .ok .done ∧ motive rest (bay.step (request key)).2)
    {keys : List Key} (h : motive keys bay) :
    (bay.run (keys.map request)).1 = keys.map (fun _ => .ok .done) ∧
      motive [] (bay.run (keys.map request)).2 := by
  induction keys generalizing bay with
  | nil => exact ⟨rfl, h⟩
  | cons key rest ih =>
    obtain ⟨hdone, hnext⟩ := hstep key rest bay h
    obtain ⟨hanswers, hlast⟩ := ih hnext
    rw [List.map_cons, run_cons, hdone, hanswers]
    exact ⟨rfl, hlast⟩

/-- The requests that take a bay down: streams first, then patches, configs and devices. -/
def teardown (streams patches configs devices : List Key) : List Request :=
  streams.map .closeStream ++ (patches.map .resetPatch ++
    (configs.map .resetConfig ++ devices.map .disconnect))

/-- **A bay can always be taken down.** From a reachable bay, closing all streams, removing all
patches, resetting all configs and disconnecting all devices, in any order within each stage, is
granted at every step, and leaves the bay bare. -/
theorem teardown_bare (h : Reachable topology query bay)
    {streams patches configs devices : List Key}
    (hstreams : streams.Perm bay.streams.keys)
    (hpatches : patches.Perm (Table.keys bay.ledger.patches))
    (hconfigs : configs.Perm (Table.keys bay.graph.configs))
    (hdevices : devices.Perm bay.graph.connected.keys) :
    (bay.run (teardown streams patches configs devices)).1 =
        (teardown streams patches configs devices).map (fun _ => .ok .done) ∧
      (bay.run (teardown streams patches configs devices)).2.Bare topology := by
  have hstanding : Standing topology query streams patches configs devices bay :=
    { reach := h
      streams_perm := hstreams
      patches_perm := hpatches
      configs_nodup := hconfigs.nodup_iff.2 h.sound.graph.configs_nodup
      configs_mem := fun key hkey => hconfigs.subset hkey
      initial := fun config hconfig => .inl (hconfigs.symm.subset (List.mem_map_of_mem hconfig))
      devices_perm := hdevices }
  -- each stage ends where the next one can start
  obtain ⟨hstreams, hstanding⟩ := run_stage .closeStream
    (motive := fun streams => Standing topology query streams patches configs devices)
    (fun _ _ _ h => h.closeStream) hstanding
  obtain ⟨hpatches, hstanding⟩ := run_stage .resetPatch
    (motive := fun patches => Standing topology query [] patches configs devices)
    (fun _ _ _ h => h.resetPatch) hstanding
  obtain ⟨hconfigs, hstanding⟩ := run_stage .resetConfig
    (motive := fun configs => Standing topology query [] [] configs devices)
    (fun _ _ _ h => h.resetConfig) hstanding
  obtain ⟨hdevices, hstanding⟩ := run_stage .disconnect
    (motive := fun devices => Standing topology query [] [] [] devices)
    (fun _ _ _ h => h.disconnect) hstanding
  unfold teardown
  rw [run_append, run_append, run_append, hstreams, hpatches, hconfigs, hdevices]
  simp only [List.map_append, List.map_map]
  exact ⟨rfl, hstanding.bare⟩

/-- A USB output plays over a patch. The config of the speaker is changed, and there is another USB
output, which nothing uses. -/
def busySession : List Request :=
  [ .setDebug .simulated, .connectUsb 1, .playPcm 3 2 .stereo, .playPcm 8 0 .stereo,
    .setPatch (.request [9] [10]), .openOutput 9 960 ⟨[]⟩ none,
    .setConfig { Config.blank with id := 1, sampleRate := some 48000 }, .connectUsb 2 ]

theorem busySession_teardown_bare :
    ∃ bay, bay = ((builtIn .unavailable).run busySession).2 ∧
      Reachable .builtIn .unavailable bay ∧ [9].Perm bay.streams.keys ∧
      [1].Perm (Table.keys bay.ledger.patches) ∧
      [10, 1, 9, 2].Perm (Table.keys bay.graph.configs) ∧
      [8, 11].Perm bay.graph.connected.keys ∧
      (bay.run (teardown [9] [1] [10, 1, 9, 2] [8, 11])).1 =
        (teardown [9] [1] [10, 1, 9, 2] [8, 11]).map (fun _ => .ok .done) ∧
      (bay.run (teardown [9] [1] [10, 1, 9, 2] [8, 11])).2.Bare .builtIn := by
  have hstart : ofTopology? .builtIn .unavailable = .ok (builtIn .unavailable) := rfl
  have hreach := (Reachable.start hstart).run busySession
  refine ⟨_, rfl, hreach, by decide, by decide, by decide, by decide, ?_⟩
  exact teardown_bare hreach (by decide) (by decide) (by decide) (by decide)

end Bay

end Patchbay
