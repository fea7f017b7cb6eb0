import Patchbay.Proofs.Lineage

/-!
# The profiles of connected devices

A device gets its profiles when it is connected: from the topology, by its template, when connections
are simulated, and from the query otherwise. The switch between the two is looked at only at that
moment, so it has to be kept from moving for as long as a device is there (`Effect.switch_kept`).
Then the switch of the moment tells where the profiles of all connected ports come from
(`Bay.profiles_as_prescribed`), and simulated and real devices are never connected together.

The template of a port is not part of the state. It is read off the connections that a run has made,
like the roots of ports.
-/

namespace Patchbay

/-- The profiles of a port made from `template`: those of the topology for devices made from that
template when connections are simulated, and otherwise those that the query finds out. -/
def Port.ProfiledBy (topology : Topology) (query : ProfileQuery) (simulated : Bool)
    (template : Key) (port : Port) : Prop :=
  if simulated then port.profiles = (topology.connectedProfiles.get? template).getD []
  else ∃ device, port.role.device? = some device ∧ query.profiles? device = some port.profiles

namespace Port

variable {topology : Topology} {query : ProfileQuery} {template : Key} {port : Port}

theorem profiledBy_simulated : port.ProfiledBy topology query true template ↔
    port.profiles = (topology.connectedProfiles.get? template).getD [] :=
  Iff.rfl

theorem profiledBy_real : port.ProfiledBy topology query false template ↔
    ∃ device, port.role.device? = some device ∧ query.profiles? device = some port.profiles :=
  Iff.rfl

/-- A query that finds out nothing provides for no port. -/
theorem not_profiledBy_real (hnone : ∀ device, query.profiles? device = none) :
    ¬ port.ProfiledBy topology query false template := by
  intro hprofiles
  obtain ⟨device, _, hanswer⟩ := profiledBy_real.1 hprofiles
  rw [hnone device] at hanswer
  cases hanswer

end Port

theorem DebugFlags.changesSimulation_iff (flags : DebugFlags) {target : DebugFlags} :
    flags.changesSimulation target = true ↔
      flags.simulateConnections ≠ target.simulateConnections := by
  unfold changesSimulation
  rw [bne_iff_ne]

namespace Bay

/-- The bay has the query and the prescribed profiles that it was built with, and every connected
port has been made, according to `made`, from a template by which its profiles are those that the
switch asks for. -/
structure Profiled (topology : Topology) (query : ProfileQuery) (made : List (Key × Key))
    (bay : Bay) : Prop where
  query_eq : bay.query = query
  prescribed_eq : bay.graph.connectedProfiles = topology.connectedProfiles
  profiled : ∀ key ∈ bay.graph.connected.keys, ∃ port template,
    Table.find? bay.graph.ports key = some port ∧ (key, template) ∈ made ∧
      port.ProfiledBy topology query bay.debug.simulateConnections template

variable {topology : Topology} {query : ProfileQuery} {bay next : Bay} {request : Request}
  {answer : Answer} {made : List (Key × Key)}

/-! ## The switch -/

/-- While a device is connected, no effect moves the switch. -/
theorem Effect.switch_kept (he : Effect bay request answer next)
    (hconnected : bay.graph.connected.keys ≠ []) :
    next.debug.simulateConnections = bay.debug.simulateConnections := by
  cases he with
  | @setDebug flags hflags =>
    by_cases hsame : flags.simulateConnections = bay.debug.simulateConnections
    · exact hsame
    · have hchanges := bay.debug.changesSimulation_iff.2 (Ne.symm hsame)
      exact absurd (KeyMap.keys_eq_nil (hflags hchanges)) hconnected
  | _ => rfl

theorem step_switch_kept (bay : Bay) (request : Request)
    (hconnected : bay.graph.connected.keys ≠ []) :
    (bay.step request).2.debug.simulateConnections = bay.debug.simulateConnections := by
  let motive (next : Bay) : Prop :=
    next.debug.simulateConnections = bay.debug.simulateConnections
  have hfirst : motive bay := rfl
  exact step_induction hfirst fun _ _ he => he.switch_kept hconnected

/-- A request to move the switch is refused while a device is connected. -/
theorem step_setDebug_of_connected {flags : DebugFlags}
    (hconnected : bay.graph.connected.keys ≠ [])
    (hflags : flags.simulateConnections ≠ bay.debug.simulateConnections) :
    (bay.step (.setDebug flags)).1 = .error .simulationFixed := by
  rw [step_eq_error]
  simp only [respond, bind_eq_error, require_eq_error, and_true]
  left
  intro hempty
  have hchanges := bay.debug.changesSimulation_iff.2 hflags.symm
  exact hconnected (KeyMap.keys_eq_nil (hempty hchanges))

/-! ## The profiles -/

/-- The port of a new device has the profiles that the switch asks for. -/
theorem Profiled.connect (h : bay.Profiled topology query made) {template port : Port}
    {graph : Graph}
    (hconnect : bay.graph.connect template bay.debug.simulateConnections bay.query =
      .ok (port, graph)) :
    port.ProfiledBy topology query bay.debug.simulateConnections template.id := by
  obtain ⟨entry, hardware, address, profiles, key, htemplate, hdevice, _, _, _, _, hprofiles, _,
    rfl, _⟩ := Graph.connect_eq_ok.1 hconnect
  have hid : entry.id = template.id := Table.key_of_find? htemplate
  unfold Graph.profilesFor at hprofiles
  cases hswitch : bay.debug.simulateConnections with
  | true =>
    rw [hswitch, if_pos rfl] at hprofiles
    rw [Port.profiledBy_simulated, ← hid, ← h.prescribed_eq]
    exact (Except.ok.inj hprofiles).symm
  | false =>
    rw [hswitch, if_neg Bool.false_ne_true, present_eq_ok] at hprofiles
    rw [Port.profiledBy_real, ← h.query_eq]
    exact ⟨_, Role.device?_withAddress hdevice, hprofiles⟩

/-- Nothing changes when ports, connected devices and the switch stay as they are. -/
theorem Profiled.congr (h : bay.Profiled topology query made) (hquery : next.query = bay.query)
    (hprescribed : next.graph.connectedProfiles = bay.graph.connectedProfiles)
    (hports : next.graph.ports = bay.graph.ports)
    (hconnected : next.graph.connected = bay.graph.connected)
    (hswitch : bay.graph.connected.keys ≠ [] →
      next.debug.simulateConnections = bay.debug.simulateConnections) :
    next.Profiled topology query made where
  query_eq := hquery.trans h.query_eq
  prescribed_eq := hprescribed.trans h.prescribed_eq
  profiled := by
    intro key hkey
    rw [hconnected] at hkey
    rw [hports, hswitch (List.ne_nil_of_mem hkey)]
    exact h.profiled key hkey

/-- Every effect keeps the profiles in step with the switch. -/
theorem Effect.profiled (hwf : topology.WellFormed) (hsound : bay.Sound topology)
    (h : bay.Profiled topology query made) (he : Effect bay request answer next) :
    next.Profiled topology query (made ++ (connection? (request, .ok answer)).toList) := by
  have hnone : connection? (request, .ok answer) = none → next.query = bay.query →
      next.graph.connectedProfiles = bay.graph.connectedProfiles →
      next.graph.ports = bay.graph.ports → next.graph.connected = bay.graph.connected →
      next.Profiled topology query (made ++ (connection? (request, .ok answer)).toList) := by
    intro hconnection hquery hprescribed hports hconnected
    rw [hconnection, Option.toList_none, List.append_nil]
    exact h.congr hquery hprescribed hports hconnected he.switch_kept
  cases he with
  | @connect template port _ hconnect =>
    have hprofiled := h.connect hconnect
    obtain ⟨_, hkey, _, rfl⟩ := Graph.connect_eq_withDevice hconnect
    have hlt := Key.lt_of_next? hkey
    have hfound : Table.find? (bay.graph.withDevice template.id port).ports port.id = some port :=
      Table.find?_concat (hsound.graph.port_not_mem hlt)
    refine { h with profiled := ?_ }
    intro key hmem
    rw [hsound.graph.withDevice_connected hlt] at hmem
    rcases List.mem_append.1 hmem with hmem | hmem
    · obtain ⟨old, oldTemplate, hold, hmade, hprofiles⟩ := h.profiled key hmem
      exact ⟨old, oldTemplate, Table.find?_append hold, List.mem_append_left _ hmade, hprofiles⟩
    · rw [List.mem_singleton.1 hmem]
      exact ⟨port, template.id, hfound, List.mem_concat_self, hprofiled⟩
  | @disconnect gone _ hdisconnect =>
    obtain ⟨_, _, _, rfl⟩ := Graph.disconnect_eq_ok.1 hdisconnect
    refine { h with profiled := ?_ }
    intro key hmem
    have hmem : key ∈ (bay.graph.connected.erase gone).keys := hmem
    rw [KeyMap.keys_erase] at hmem
    obtain ⟨hmem, hne⟩ := List.mem_filter.1 hmem
    have hne : key ≠ gone := by simpa using hne
    obtain ⟨port, template, hport, hmade, hprofiles⟩ := h.profiled key hmem
    refine ⟨port, template, ?_, List.mem_append_left _ hmade, hprofiles⟩
    exact Table.find?_remove (hsound.graph.ports_nodup hwf) hport hne
  | _ => exact hnone rfl rfl rfl rfl rfl

theorem run_profiled (hstart : ofTopology? topology query = .ok bay) (requests : List Request) :
    (bay.run requests).2.Profiled topology query (bay.connections requests) := by
  have hfirst : bay.Profiled topology query [] := by
    obtain ⟨_, ledger, _, rfl⟩ := ofTopology?_eq_ok hstart
    exact ⟨rfl, rfl, nofun⟩
  refine (Reachable.start hstart).run_connections
    (motive := fun made bay => bay.Profiled topology query made) hfirst ?_ requests
  intro made bay next request answer hreach hbay he
  exact he.profiled hreach.wellFormed hreach.sound hbay

/-- **Simulated and real devices never mix.** After any run, every connected port has been made
from one template, and has the profiles that the switch of the moment asks for: with simulation on
those of the topology for that template, and with simulation off those that the query answers for
its device. No request moves the switch while a device is connected. With a query that finds out
nothing and simulation off, no device is connected and none can be. -/
theorem profiles_as_prescribed (hstart : ofTopology? topology query = .ok bay)
    (requests : List Request) :
    (∀ key ∈ (bay.run requests).2.graph.connected.keys, ∃ port device template,
      Table.find? (bay.run requests).2.graph.ports key = some port ∧
        port.role.device? = some device ∧ (key, template) ∈ bay.connections requests ∧
        (∀ other, (key, other) ∈ bay.connections requests → other = template) ∧
        ((bay.run requests).2.debug.simulateConnections = false →
          query.profiles? device = some port.profiles) ∧
        ((bay.run requests).2.debug.simulateConnections = true →
          port.profiles = (topology.connectedProfiles.get? template).getD [])) ∧
    ((bay.run requests).2.graph.connected.keys ≠ [] →
      (∀ request, ((bay.run requests).2.step request).2.debug.simulateConnections =
        (bay.run requests).2.debug.simulateConnections) ∧
      ∀ flags : DebugFlags,
        flags.simulateConnections ≠ (bay.run requests).2.debug.simulateConnections →
          ((bay.run requests).2.step (.setDebug flags)).1 = .error .simulationFixed) ∧
    ((∀ device, query.profiles? device = none) →
      (bay.run requests).2.debug.simulateConnections = false →
        (bay.run requests).2.graph.connected.keys = [] ∧
          ∀ template port, ((bay.run requests).2.step (.connect template)).1 ≠ .ok (.port port)) := by
  have hreach : Reachable topology query (bay.run requests).2 := (Reachable.start hstart).run requests
  have hprofiled := run_profiled hstart requests
  refine ⟨?_, ?_, ?_⟩
  · intro key hkey
    obtain ⟨port, template, hport, hmade, hprofiles⟩ := hprofiled.profiled key hkey
    obtain ⟨entry, hentry, hdevice⟩ := hreach.sound.graph.connected_device hreach.wellFormed hkey
    cases hport.symm.trans hentry
    obtain ⟨device, hdevice⟩ := Option.isSome_iff_exists.1 hdevice
    refine ⟨port, device, template, hport, hdevice, hmade, ?_, ?_, ?_⟩
    · intro other hother
      have honce := (descended_of_ofTopology? hstart requests).made_once
      exact congrArg Prod.snd (honce _ hother _ hmade rfl)
    · intro hswitch
      rw [hswitch] at hprofiles
      obtain ⟨queried, hqueried, hanswer⟩ := Port.profiledBy_real.1 hprofiles
      cases hdevice.symm.trans hqueried
      exact hanswer
    · intro hswitch
      rw [hswitch] at hprofiles
      exact Port.profiledBy_simulated.1 hprofiles
  · intro hconnected
    refine ⟨fun request => step_switch_kept _ request hconnected, ?_⟩
    intro flags hflags
    exact step_setDebug_of_connected hconnected hflags
  · intro hnone hswitch
    refine ⟨?_, ?_⟩
    · rw [List.eq_nil_iff_forall_not_mem]
      intro key hkey
      obtain ⟨port, template, _, _, hprofiles⟩ := hprofiled.profiled key hkey
      rw [hswitch] at hprofiles
      exact Port.not_profiledBy_real hnone hprofiles
    · intro template port hgranted
      rcases step_cases (bay.run requests).2 (.connect template) with
        ⟨answer, next, hstep, he⟩ | ⟨fault, hstep⟩
      · rw [hstep] at hgranted
        cases hgranted
        cases he with
        | connect hconnect =>
          have hprofiles := hprofiled.connect hconnect
          rw [hswitch] at hprofiles
          exact Port.not_profiledBy_real hnone hprofiles
      · rw [hstep] at hgranted
        cases hgranted

/-- Real devices are out of reach of the query. Then simulation is switched on for a USB output, and
is asked to go off while the device is there. -/
def switchSession : List Request :=
  [.plug 6 1, .setDebug .simulated, .plug 6 1, .setDebug .initial]

theorem switchSession_profiled :
    ofTopology? .builtIn .unavailable = .ok (builtIn .unavailable) ∧
      ((builtIn .unavailable).run switchSession).2.graph.connected.keys = [8] ∧
      ((builtIn .unavailable).run switchSession).2.debug.simulateConnections = true ∧
      (∃ port template,
        Table.find? ((builtIn .unavailable).run switchSession).2.graph.ports 8 = some port ∧
          (8, template) ∈ (builtIn .unavailable).connections switchSession ∧
          port.profiles = (Topology.builtIn.connectedProfiles.get? template).getD []) ∧
      (((builtIn .unavailable).run switchSession).2.step (.setDebug .initial)).1 =
        .error .simulationFixed ∧
      ((builtIn .unavailable).run (switchSession.take 1)).2.graph.connected.keys = [] := by
  have hstart : ofTopology? .builtIn .unavailable = .ok (builtIn .unavailable) := rfl
  have hon : ((builtIn .unavailable).run switchSession).2.debug.simulateConnections = true := by
    decide
  obtain ⟨hports, hlocked, _⟩ := profiles_as_prescribed hstart switchSession
  obtain ⟨_, _, hnone⟩ := profiles_as_prescribed hstart (switchSession.take 1)
  obtain ⟨port, _, template, hport, _, hmade, _, _, hprofiles⟩ := hports 8 (by decide)
  refine ⟨hstart, by decide, hon, ⟨port, template, hport, hmade, hprofiles hon⟩, ?_, ?_⟩
  · exact (hlocked (by decide)).2 .initial (by decide)
  · exact (hnone (fun _ => rfl) (by decide)).1

end Bay

end Patchbay
