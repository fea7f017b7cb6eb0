import Patchbay.Proofs.SoundBay

/-!
# Supply of patches

A patch is admitted when a route leads to each of its sinks from one of its sources. Routes are
rewritten afterwards, whenever a device comes or goes, and nobody looks at the patches then. Still
no patch is orphaned: a port with configs cannot be disconnected, so both ends of a route that a
patch relies on stay where they are (`Bay.Effect.route_kept`), and being supplied is an invariant
(`Bay.Effect.supplied`).
-/

namespace Patchbay

namespace Patch

/-- The route starts at the port of a source of the patch. -/
def StartsAt (configs : List Config) (patch : Patch) (route : Route) : Prop :=
  ∃ config ∈ configs, config.id ∈ patch.sources ∧ config.portId ∈ route.sources

instance (configs : List Config) (patch : Patch) (route : Route) :
    Decidable (patch.StartsAt configs route) :=
  inferInstanceAs (Decidable
    (∃ config ∈ configs, config.id ∈ patch.sources ∧ config.portId ∈ route.sources))

/-- A route leads from the port of a source of the patch to `port`. -/
def Reaches (configs : List Config) (routes : List Route) (patch : Patch) (port : Key) : Prop :=
  ∃ route ∈ routes, route.sink = port ∧ patch.StartsAt configs route

instance (configs : List Config) (routes : List Route) (patch : Patch) (port : Key) :
    Decidable (patch.Reaches configs routes port) :=
  inferInstanceAs (Decidable
    (∃ route ∈ routes, route.sink = port ∧ patch.StartsAt configs route))

/-- Every sink of the patch is a config, and the patch reaches the port of that config. -/
def Supplied (configs : List Config) (routes : List Route) (patch : Patch) : Prop :=
  ∀ key ∈ patch.sinks, ∃ config ∈ configs,
    config.id = key ∧ patch.Reaches configs routes config.portId

instance (configs : List Config) (routes : List Route) (patch : Patch) :
    Decidable (patch.Supplied configs routes) :=
  decidable_of_iff
    (patch.sinks.all fun key => configs.any fun config =>
      config.id = key && patch.Reaches configs routes config.portId)
    (by simp [Supplied])

variable {configs configs' : List Config} {routes routes' usable : List Route}
  {request patch : Patch} {route : Route} {port : Key}

/-- The routes from the ports of the sources are those that start at the patch. -/
theorem mem_fromPorts_iff (hnd : (Table.keys configs).Nodup) :
    route ∈ Route.fromPorts (portsOf configs patch.sources) routes ↔
      route ∈ routes ∧ patch.StartsAt configs route := by
  rw [Route.mem_fromPorts]
  simp only [mem_portsOf_iff hnd]
  constructor
  · rintro ⟨hroute, _, ⟨config, hmem, hsource, rfl⟩, hstart⟩
    exact ⟨hroute, config, hmem, hsource, hstart⟩
  · rintro ⟨hroute, config, hmem, hsource, hstart⟩
    exact ⟨hroute, _, ⟨config, hmem, hsource, rfl⟩, hstart⟩

/-- The usable routes of a request are those that start at its sources. -/
theorem mem_usable_iff (hnd : (Table.keys configs).Nodup)
    (husable : request.usableRoutes configs routes = .ok usable) :
    route ∈ usable ↔ route ∈ routes ∧ request.StartsAt configs route := by
  obtain ⟨_, _, rfl⟩ := usableRoutes_eq_ok.1 husable
  exact mem_fromPorts_iff hnd

/-- A request with usable routes is supplied. -/
theorem supplied_of_usable (hnd : (Table.keys configs).Nodup)
    (husable : request.usableRoutes configs routes = .ok usable) :
    request.Supplied configs routes := by
  intro key hkey
  obtain ⟨hlisted, hreached, _⟩ := usableRoutes_eq_ok.1 husable
  obtain ⟨config, hmem, hid⟩ := Table.mem_keys.1 (hlisted.sinks_mem key hkey)
  have hid : config.id = key := hid
  have hport : config.portId ∈ portsOf configs request.sinks :=
    (mem_portsOf_iff hnd).2 ⟨config, hmem, hid ▸ hkey, rfl⟩
  obtain ⟨route, hroute, hsink⟩ := hreached _ hport
  obtain ⟨hroute, hstart⟩ := (mem_usable_iff hnd husable).1 hroute
  exact ⟨config, hmem, hid, route, hroute, hsink, hstart⟩

/-- A request has usable routes exactly when its lists are in order and it is supplied. -/
theorem exists_usable_iff (hnd : (Table.keys configs).Nodup) :
    (∃ usable, request.usableRoutes configs routes = .ok usable) ↔
      request.Listed configs ∧ request.Supplied configs routes := by
  constructor
  · rintro ⟨usable, husable⟩
    exact ⟨(usableRoutes_eq_ok.1 husable).1, supplied_of_usable hnd husable⟩
  · rintro ⟨hlisted, hsupplied⟩
    refine ⟨_, usableRoutes_eq_ok.2 ⟨hlisted, ?_, rfl⟩⟩
    intro port hport
    obtain ⟨key, hkey, config, hfind, rfl⟩ := mem_portsOf.1 hport
    obtain ⟨sink, hsink, rfl, route, hroute, hend, hstart⟩ := hsupplied key hkey
    -- the config that supplies the sink is the one that its key names
    have hsame := hfind.symm.trans (Table.find?_of_mem hnd hsink)
    cases hsame
    exact ⟨route, (mem_fromPorts_iff hnd).2 ⟨hroute, hstart⟩, hend⟩

/-- A patch stays supplied when its configs stay at their places and every route to one of their
ports is kept with the sources that have configs. -/
theorem Supplied.kept (h : patch.Supplied configs routes)
    (hplaces : SamePlaces configs configs' patch)
    (hroutes : ∀ route ∈ routes, (∃ config ∈ configs, config.portId = route.sink) →
      ∃ kept ∈ routes', kept.sink = route.sink ∧
        ∀ config ∈ configs, config.portId ∈ route.sources → config.portId ∈ kept.sources) :
    patch.Supplied configs' routes' := by
  intro key hkey
  obtain ⟨sink, hsink, hid, route, hroute, hport, source, hsource, hnamed, hstart⟩ := h key hkey
  obtain ⟨kept, hkept, hkept_sink, hkept_source⟩ := hroutes route hroute ⟨sink, hsink, hport.symm⟩
  -- both ends of the route are found at their places in the new table
  have hsink_named : sink.id ∈ patch.configs := by
    rw [hid]
    exact List.mem_append_right _ hkey
  have hsource_named : source.id ∈ patch.configs := List.mem_append_left _ hnamed
  obtain ⟨sink', hsink', hsink_id, hsink_port⟩ := hplaces.counterpart hsink hsink_named
  obtain ⟨source', hsource', hsource_id, hsource_port⟩ :=
    hplaces.counterpart hsource hsource_named
  refine ⟨sink', hsink', hsink_id.trans hid, kept, hkept, ?_, source', hsource', ?_, ?_⟩
  · rw [hkept_sink, hport, hsink_port]
  · rw [hsource_id]
    exact hnamed
  · rw [hsource_port]
    exact hkept_source source hsource hstart

end Patch

namespace Ledger

/-- Every patch is supplied. -/
def Supplied (configs : List Config) (routes : List Route) (ledger : Ledger) : Prop :=
  ∀ patch ∈ ledger.patches, patch.Supplied configs routes

variable {configs : List Config} {routes : List Route} {limits : Limits} {ledger next : Ledger}
  {request patch : Patch}

theorem Supplied.accept (h : ledger.Supplied configs routes) (hnd : (Table.keys configs).Nodup)
    (haccept : ledger.accept request configs routes limits = .ok (patch, next)) :
    next.Supplied configs routes := by
  obtain ⟨usable, husable, hcases⟩ := accept_eq_ok.1 haccept
  have hrequest := Patch.supplied_of_usable hnd husable
  intro other hother
  rcases hcases with ⟨_, _, key, _, rfl, rfl⟩ | ⟨_, _, _, rfl, rfl⟩
  · rcases List.mem_append.1 hother with hother | hother
    · exact h other hother
    · rw [List.mem_singleton.1 hother]
      exact hrequest
  · rcases Table.mem_of_mem_replace hother with rfl | hother
    · exact hrequest
    · exact h other hother

theorem Supplied.restore (h : ledger.Supplied configs routes) (hnd : (Table.keys configs).Nodup)
    (hrestore : ledger.restore request configs routes limits = .ok (patch, next)) :
    next.Supplied configs routes := by
  obtain ⟨_, _, usable, husable, _, rfl, rfl⟩ := restore_eq_ok.1 hrestore
  intro other hother
  rcases List.mem_append.1 hother with hother | hother
  · exact h other hother
  · rw [List.mem_singleton.1 hother]
    exact Patch.supplied_of_usable hnd husable

theorem Supplied.reset {key : Key} (h : ledger.Supplied configs routes)
    (hreset : ledger.reset key = .ok next) : next.Supplied configs routes := by
  obtain ⟨_, rfl⟩ := reset_eq_ok.1 hreset
  intro other hother
  exact h other (Table.mem_of_mem_remove hother)

end Ledger

namespace Bay

variable {topology : Topology} {query : ProfileQuery} {bay next : Bay} {request : Request}
  {answer : Answer}

/-- No effect orphans a patch. -/
theorem Effect.supplied (hwf : topology.WellFormed) (h : bay.Sound topology)
    (hsupplied : bay.ledger.Supplied bay.graph.configs bay.graph.routes)
    (he : Effect bay request answer next) :
    next.ledger.Supplied next.graph.configs next.graph.routes := by
  have hplaces := he.samePlaces hwf h
  have hroutes : ∀ route ∈ bay.graph.routes,
      (∃ config ∈ bay.graph.configs, config.portId = route.sink) →
        ∃ kept ∈ next.graph.routes, kept.sink = route.sink ∧
          ∀ config ∈ bay.graph.configs, config.portId ∈ route.sources →
            config.portId ∈ kept.sources := by
    intro route hroute hsink
    obtain ⟨kept, hkept, hsame, _, hsources⟩ := he.route_kept hwf h hroute hsink
    exact ⟨kept, hkept, hsame, hsources⟩
  have hkept : ∀ patch ∈ bay.ledger.patches,
      patch.Supplied next.graph.configs next.graph.routes := by
    intro patch hpatch
    exact (hsupplied patch hpatch).kept (hplaces patch hpatch) hroutes
  cases he with
  | setPatch haccept => exact hsupplied.accept h.graph.configs_nodup haccept
  | resetPatch hreset => exact hsupplied.reset hreset
  | _ => exact hkept

/-- The initial patches are supplied. -/
theorem supplied_of_ofTopology? (h : ofTopology? topology query = .ok bay) :
    bay.ledger.Supplied bay.graph.configs bay.graph.routes := by
  obtain ⟨hvalid, ledger, hledger, rfl⟩ := ofTopology?_eq_ok h
  have hnd : (Table.keys topology.configs).Nodup :=
    (Topology.wellFormed_of_validate hvalid).configs_nodup
  have hempty : Ledger.empty.Supplied topology.configs topology.routes := nofun
  exact admitAll_induction hempty (fun _ _ _ _ h hrestore => h.restore hnd hrestore) hledger

theorem Reachable.supplied (h : Reachable topology query bay) :
    bay.ledger.Supplied bay.graph.configs bay.graph.routes := by
  refine h.invariant (fun _ => supplied_of_ofTopology?) fun hsound hsupplied he => ?_
  exact he.supplied h.wellFormed hsound hsupplied

/-- **No patch is orphaned.** In a reachable bay, the routes of the moment lead to each sink of a
patch from the port of one of its sources. -/
theorem no_patch_orphaned (h : Reachable topology query bay) :
    ∀ patch ∈ bay.ledger.patches, ∀ key ∈ patch.sinks, ∃ sink ∈ bay.graph.configs,
      sink.id = key ∧ ∃ route ∈ bay.graph.routes, route.sink = sink.portId ∧
        ∃ source ∈ bay.graph.configs, source.id ∈ patch.sources ∧
          source.portId ∈ route.sources := by
  intro patch hpatch key hkey
  exact h.supplied patch hpatch key hkey

/-- A USB output is patched. Another one comes and goes, and the patched one is asked to go. -/
def visitorSession : List Request :=
  [ .setDebug .simulated, .connectUsb 1, .playPcm 3 2 .stereo, .playPcm 8 0 .stereo,
    .setPatch (.request [9] [10]), .connectUsb 2, .disconnect 11, .disconnect 8,
    .resetConfig 10 ]

theorem visitorSession_patch_supplied :
    Reachable .builtIn .unavailable ((builtIn .unavailable).run visitorSession).2 ∧
      ((builtIn .unavailable).run visitorSession).2.ledger.patches.map (·.sinks) = [[10]] ∧
      ∀ patch ∈ ((builtIn .unavailable).run visitorSession).2.ledger.patches,
        ∀ key ∈ patch.sinks,
          ∃ sink ∈ ((builtIn .unavailable).run visitorSession).2.graph.configs, sink.id = key ∧
            ∃ route ∈ ((builtIn .unavailable).run visitorSession).2.graph.routes,
              route.sink = sink.portId ∧
                ∃ source ∈ ((builtIn .unavailable).run visitorSession).2.graph.configs,
                  source.id ∈ patch.sources ∧ source.portId ∈ route.sources := by
  have hstart : ofTopology? .builtIn .unavailable = .ok (builtIn .unavailable) := rfl
  have hreach := (Reachable.start hstart).run visitorSession
  exact ⟨hreach, by decide, no_patch_orphaned hreach⟩

end Bay

end Patchbay
