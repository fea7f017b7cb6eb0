import Patchbay.Proofs.Admission
import Patchbay.Proofs.Effect
import Patchbay.Proofs.SoundLedger
import Patchbay.Proofs.Suggestion

/-!
# Sound bays

A bay is sound (`Bay.Sound`) when its graph has grown from the topology, its ledger is
sound for the configs of the graph, and its streams are open on configs of the graph. The
bay of an accepted topology is sound (`Bay.sound_of_ofTopology?`), every effect of a
request keeps it sound (`Bay.Effect.sound`), and so every reachable bay is sound
(`Bay.Reachable.sound`).

What ties the parts together is that no effect moves or removes a config that a patch
names (`Bay.Effect.samePlaces`).
-/

namespace Patchbay

namespace Bay

/-- The graph, the ledger and the streams of a bay fit together. -/
structure Sound (topology : Topology) (bay : Bay) : Prop where
  graph : bay.graph.Grown topology
  ledger : bay.ledger.Sound bay.graph.configs bay.limits
  stream : ∀ config, bay.hasStream config = true → config ∈ Table.keys bay.graph.configs
  limits : bay.limits = topology.limits

variable {topology : Topology} {query : ProfileQuery} {bay next : Bay} {request : Request}
  {answer : Answer}

/-! ## The first bay -/

theorem ofTopology?_eq_ok (h : ofTopology? topology query = .ok bay) :
    topology.validate = .ok () ∧ ∃ ledger,
      admitAll (.ofTopology topology) topology.limits .empty topology.patches = .ok ledger ∧
        bay = start topology ledger query := by
  unfold ofTopology? at h
  simp only [bind_eq_ok, pure_eq_ok] at h
  obtain ⟨_, hvalid, ledger, hledger, rfl⟩ := h
  refine ⟨?_, ledger, hledger, rfl⟩
  cases hvalidate : topology.validate with
  | ok _ => rfl
  | error defect =>
    rw [hvalidate] at hvalid
    cases hvalid

/-- What every restored patch preserves is preserved by all initial patches. -/
theorem admitAll_induction {motive : Ledger → Prop} {graph : Graph} {limits : Limits}
    {patches : List Patch} {ledger ledger' : Ledger} (h : motive ledger)
    (hrestore : ∀ ledger patch patch' ledger', motive ledger →
      ledger.restore patch graph.configs graph.routes limits = .ok (patch', ledger') →
        motive ledger')
    (hadmitted : admitAll graph limits ledger patches = .ok ledger') : motive ledger' := by
  induction patches generalizing ledger with
  | nil =>
    cases hadmitted
    exact h
  | cons patch rest ih =>
    unfold admitAll at hadmitted
    cases hresult : ledger.restore patch graph.configs graph.routes limits with
    | error fault =>
      rw [hresult] at hadmitted
      cases hadmitted
    | ok result =>
      rw [hresult] at hadmitted
      exact ih (hrestore ledger patch result.1 result.2 h hresult) hadmitted

/-- The bay of an accepted topology is sound. -/
theorem sound_of_ofTopology? (h : ofTopology? topology query = .ok bay) : bay.Sound topology := by
  obtain ⟨hvalid, ledger, hledger, rfl⟩ := ofTopology?_eq_ok h
  have hwf := Topology.wellFormed_of_validate hvalid
  exact
    { graph := Graph.grown_ofTopology hwf
      ledger := admitAll_induction (Ledger.sound_empty _ _)
        (fun _ _ _ _ hsound hrestore => hsound.restore hwf.configs_nodup hrestore) hledger
      stream := nofun
      limits := rfl }

/-! ## Effects on the graph -/

/-- A restored config has the place of the one before. -/
theorem Sound.places_restore (h : bay.Sound topology) {config : Key} {initial : Config}
    (hholds : Table.holds bay.graph.configs config = true)
    (hinitial : Table.find? bay.graph.initialConfigs config = some initial) :
    (Table.replace initial bay.graph.configs).map Config.place = bay.graph.places := by
  have hid : initial.id = config := Table.key_of_find? hinitial
  obtain ⟨old, hold⟩ := Table.exists_find?.2 (Table.holds_iff.1 hholds)
  exact h.graph.places_replace (hid ▸ hold) (h.graph.initial_place hinitial hold)

/-- An updated config has the place of the one before. -/
theorem Sound.places_update (h : bay.Sound topology) {request config : Config} {port : Port}
    {suggestion : Suggestion} (hconfig : Table.find? bay.graph.configs request.id = some config)
    (hsuggest : port.suggest request (some config) = .ok suggestion) :
    (Table.replace suggestion.config bay.graph.configs).map Config.place = bay.graph.places := by
  obtain ⟨hid, hport⟩ := Port.suggest_place_of_current hsuggest
  have hkey : config.id = request.id := Table.key_of_find? hconfig
  have hfind : Table.find? bay.graph.configs suggestion.config.id = some config := by
    rw [hid, hkey]
    exact hconfig
  have hplace : config.place = suggestion.config.place := by
    unfold Config.place
    rw [hid, hport]
  exact h.graph.places_replace hfind hplace

/-- The graph stays one that has grown from the topology. -/
theorem Effect.grown (hwf : topology.WellFormed) (h : bay.Sound topology)
    (he : Effect bay request answer next) : next.graph.Grown topology := by
  cases he with
  | suggest _ _ _ => exact h.graph
  | updateConfig _ hconfig _ hsuggest _ =>
    exact h.graph.withPlaces (h.places_update hconfig hsuggest)
  | @createConfig request port suggestion key _ hport hsuggest _ hkey =>
    have hplace : suggestion.config.portId = port.id := Port.suggest_place_of_none hsuggest
    have hmem : suggestion.config.portId ∈ Table.keys bay.graph.ports :=
      Table.mem_keys.2 ⟨port, Table.mem_of_find? hport, hplace.symm⟩
    let config : Config := { suggestion.config with id := key }
    have hlt : bay.graph.lastKey < config.id := Key.lt_of_next? hkey
    exact h.graph.addConfig hlt hmem
  | restoreConfig hholds hinitial =>
    exact h.graph.withPlaces (h.places_restore hholds hinitial)
  | removeConfig _ _ hinitial => exact h.graph.removeConfig hinitial
  | setPatch _ => exact h.graph
  | resetPatch _ => exact h.graph
  | connect hconnect =>
    obtain ⟨_, hkey, hdevice, rfl⟩ := Graph.connect_eq_withDevice hconnect
    exact h.graph.withDevice (Key.lt_of_next? hkey) hdevice _
  | disconnect hdisconnect =>
    obtain ⟨_, hconnected, hcustom, rfl⟩ := Graph.disconnect_eq_ok.1 hdisconnect
    exact h.graph.withoutDevice hwf (KeyMap.mem_keys.2 hconnected) hcustom
  | openInput _ _ => exact h.graph
  | openOutput _ _ _ => exact h.graph
  | closeStream _ => exact h.graph
  | setDebug _ => exact h.graph

/-- The port of a config is kept as it is. -/
theorem Effect.port_kept (hwf : topology.WellFormed) (h : bay.Sound topology)
    (he : Effect bay request answer next) {config : Config} (hmem : config ∈ bay.graph.configs)
    {port : Port} (hport : Table.find? bay.graph.ports config.portId = some port) :
    Table.find? next.graph.ports config.portId = some port := by
  cases he with
  | connect hconnect =>
    obtain ⟨_, _, _, rfl⟩ := Graph.connect_eq_withDevice hconnect
    exact Table.find?_append hport
  | disconnect hdisconnect =>
    obtain ⟨_, hconnected, hcustom, rfl⟩ := Graph.disconnect_eq_ok.1 hdisconnect
    -- the port that goes has no configs
    have hne := h.graph.portId_ne hwf (KeyMap.mem_keys.2 hconnected) hcustom config hmem
    exact Table.find?_remove (h.graph.ports_nodup hwf) hport hne
  | _ => exact hport

/-! ## Effects on what is in use -/

/-- Every config that a patch names keeps its place, whatever is done. -/
theorem Effect.samePlaces (hwf : topology.WellFormed) (h : bay.Sound topology)
    (he : Effect bay request answer next) :
    ∀ patch ∈ bay.ledger.patches,
      Patch.SamePlaces bay.graph.configs next.graph.configs patch := by
  intro patch hpatch
  cases he with
  | updateConfig _ hconfig _ hsuggest _ =>
    exact .of_eq (h.places_update hconfig hsuggest).symm
  | createConfig _ _ _ _ hkey =>
    refine .append fun hnamed => ?_
    have hmem := (h.ledger.complete patch hpatch).configs_mem _ hnamed
    rw [Graph.keys_configs] at hmem
    obtain ⟨place, hplace, hid⟩ := List.mem_map.1 hmem
    have hlast := h.graph.place_last place hplace
    rw [hid] at hlast
    exact Int32.not_le.2 (Key.lt_of_next? hkey) hlast
  | restoreConfig hholds hinitial =>
    exact .of_eq (h.places_restore hholds hinitial).symm
  | removeConfig _ husing _ =>
    refine .remove fun hnamed => ?_
    obtain ⟨config, hconfig, hid⟩ :=
      Table.mem_keys.1 ((h.ledger.complete patch hpatch).configs_mem _ hnamed)
    have hid : config.id = _ := hid
    exact h.ledger.using?_eq_none_iff.1 husing patch hpatch
      ⟨config, hconfig, hid ▸ hnamed, .inl hid⟩
  | disconnect hdisconnect =>
    obtain ⟨_, hconnected, hcustom, rfl⟩ := Graph.disconnect_eq_ok.1 hdisconnect
    have hconfigs := h.graph.withoutDevice_configs hwf (KeyMap.mem_keys.2 hconnected) hcustom
    exact .of_eq (congrArg (List.map Config.place) hconfigs.symm)
  | connect hconnect =>
    obtain ⟨_, _, _, rfl⟩ := Graph.connect_eq_withDevice hconnect
    exact .of_eq rfl
  | _ => exact .of_eq rfl

/-! ## Effects on patches -/

/-- The ledger stays sound for the configs of the graph. -/
theorem Effect.ledger_sound (hwf : topology.WellFormed) (h : bay.Sound topology)
    (he : Effect bay request answer next) :
    next.ledger.Sound next.graph.configs next.limits := by
  have hplaces := he.samePlaces hwf h
  cases he with
  | setPatch haccept => exact h.ledger.accept h.graph.configs_nodup haccept
  | resetPatch hreset => exact h.ledger.reset hreset
  | _ => exact h.ledger.samePlaces hplaces

/-! ## Effects on routes -/

/-- A route to a port with configs is kept, and with it every source that has configs. -/
theorem Effect.route_kept (hwf : topology.WellFormed) (h : bay.Sound topology)
    (he : Effect bay request answer next) {route : Route} (hroute : route ∈ bay.graph.routes)
    (hsink : ∃ config ∈ bay.graph.configs, config.portId = route.sink) :
    ∃ kept ∈ next.graph.routes, kept.sink = route.sink ∧ kept.exclusive = route.exclusive ∧
      ∀ config ∈ bay.graph.configs, config.portId ∈ route.sources →
        config.portId ∈ kept.sources := by
  cases he with
  | connect hconnect =>
    obtain ⟨_, _, _, rfl⟩ := Graph.connect_eq_withDevice hconnect
    refine ⟨_, Route.mem_extend.2 (.inl ⟨route, hroute, rfl⟩), Route.withSource_sink,
      Route.withSource_exclusive, ?_⟩
    intro config _ hsource
    exact Route.mem_sources_withSource.2 (.inl hsource)
  | @disconnect port _ hdisconnect =>
    obtain ⟨_, hconnected, hcustom, rfl⟩ := Graph.disconnect_eq_ok.1 hdisconnect
    -- the port that goes has no configs
    have hne := h.graph.portId_ne hwf (KeyMap.mem_keys.2 hconnected) hcustom
    obtain ⟨config, hmem, hport⟩ := hsink
    have hsink : route.sink ≠ port := hport ▸ hne config hmem
    refine ⟨_, Route.mem_prune.2 ⟨route, hroute, hsink, rfl⟩, rfl, rfl, ?_⟩
    intro config hmem hsource
    exact List.mem_filter.2 ⟨hsource, by simpa using hne config hmem⟩
  | _ => exact ⟨route, hroute, rfl, rfl, fun _ _ hsource => hsource⟩

/-! ## Effects on streams -/

/-- A stream finds a place only on a config of the graph. -/
theorem mem_configs_of_streamPlace {config : Key} {entry : Config} {port : Port}
    (h : bay.streamPlace config = .ok (entry, port)) : config ∈ Table.keys bay.graph.configs :=
  Table.exists_find?.1 ⟨entry, (streamPlace_eq_ok.1 h).1⟩

/-- A config stays at its place for as long as a stream is open on it. -/
theorem Effect.place_of_stream (hwf : topology.WellFormed) (h : bay.Sound topology)
    (he : Effect bay request answer next) {place : Key × Key}
    (hstream : bay.hasStream place.1 = true) (hplace : place ∈ bay.graph.places) :
    place ∈ next.graph.places := by
  cases he with
  | updateConfig _ hconfig _ hsuggest _ =>
    show place ∈ (Table.replace _ _).map Config.place
    rw [h.places_update hconfig hsuggest]
    exact hplace
  | createConfig _ _ _ _ _ =>
    show place ∈ List.map Config.place (_ ++ _)
    rw [List.map_append]
    exact List.mem_append_left _ hplace
  | restoreConfig hholds hinitial =>
    show place ∈ (Table.replace _ _).map Config.place
    rw [h.places_restore hholds hinitial]
    exact hplace
  | @removeConfig removed hclosed _ _ =>
    obtain ⟨config, hmem, rfl⟩ := Graph.mem_places.1 hplace
    have hne : config.id ≠ removed := by
      intro he
      rw [← he, ← Config.place_fst, hstream] at hclosed
      cases hclosed
    exact List.mem_map_of_mem ((Table.mem_remove h.graph.configs_nodup).2 ⟨hmem, hne⟩)
  | connect hconnect =>
    obtain ⟨_, _, _, rfl⟩ := Graph.connect_eq_withDevice hconnect
    exact hplace
  | disconnect hdisconnect =>
    obtain ⟨_, hconnected, hcustom, rfl⟩ := Graph.disconnect_eq_ok.1 hdisconnect
    have hconfigs := h.graph.withoutDevice_configs hwf (KeyMap.mem_keys.2 hconnected) hcustom
    show place ∈ (Graph.withoutDevice _ _).configs.map Config.place
    rw [hconfigs]
    exact hplace
  | _ => exact hplace

theorem Effect.config_of_stream (hwf : topology.WellFormed) (h : bay.Sound topology)
    (he : Effect bay request answer next) {config : Key} (hstream : bay.hasStream config = true) :
    config ∈ Table.keys next.graph.configs := by
  have hmem := h.stream config hstream
  rw [Graph.keys_configs] at hmem ⊢
  obtain ⟨place, hplace, rfl⟩ := List.mem_map.1 hmem
  exact List.mem_map_of_mem (he.place_of_stream hwf h hstream hplace)

/-- Streams stay open on configs of the graph. -/
theorem Effect.stream_sound (hwf : topology.WellFormed) (h : bay.Sound topology)
    (he : Effect bay request answer next) :
    ∀ config, next.hasStream config = true → config ∈ Table.keys next.graph.configs := by
  intro config hstream
  have hstay : bay.hasStream config = true → config ∈ Table.keys next.graph.configs :=
    he.config_of_stream hwf h
  cases he with
  | openInput hplace _ =>
    have hmem := mem_configs_of_streamPlace hplace
    rcases KeyMap.contains_insert.1 hstream with rfl | hopen
    · exact hmem
    · exact hstay hopen
  | openOutput hplace _ _ =>
    have hmem := mem_configs_of_streamPlace hplace
    rcases KeyMap.contains_insert.1 hstream with rfl | hopen
    · exact hmem
    · exact hstay hopen
  | closeStream _ => exact hstay (KeyMap.contains_erase.1 hstream).2
  | _ => exact hstay hstream

/-! ## Soundness -/

/-- Every effect keeps a bay sound. -/
theorem Effect.sound (hwf : topology.WellFormed) (h : bay.Sound topology)
    (he : Effect bay request answer next) : next.Sound topology where
  graph := he.grown hwf h
  ledger := he.ledger_sound hwf h
  stream := he.stream_sound hwf h
  limits := by cases he <;> exact h.limits

theorem Reachable.wellFormed (h : Reachable topology query bay) : topology.WellFormed := by
  induction h with
  | start hstart => exact Topology.wellFormed_of_validate (ofTopology?_eq_ok hstart).1
  | step _ _ ih => exact ih

/-- Every reachable bay is sound. -/
theorem Reachable.sound (h : Reachable topology query bay) : bay.Sound topology := by
  induction h with
  | start hstart => exact sound_of_ofTopology? hstart
  | step request hreach ih =>
    exact step_induction ih fun _ _ he => he.sound hreach.wellFormed ih

/-- What holds of the first bay and is preserved by every effect on a sound bay holds of every
reachable bay. -/
theorem Reachable.invariant {motive : Bay → Prop} (h : Reachable topology query bay)
    (hstart : ∀ bay, ofTopology? topology query = .ok bay → motive bay)
    (heffect : ∀ {bay next : Bay} {request : Request} {answer : Answer}, bay.Sound topology →
      motive bay → Effect bay request answer next → motive next) : motive bay := by
  induction h with
  | start hfirst => exact hstart _ hfirst
  | step request hreach ih =>
    exact step_induction ih fun _ _ he => heffect hreach.sound ih he

end Bay

end Patchbay
