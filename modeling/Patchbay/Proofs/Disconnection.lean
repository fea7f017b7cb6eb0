import Patchbay.Proofs.SoundBay

/-!
# When a device can be disconnected

A port can be disconnected when it is that of a connected device (`Graph.Attached`) and has no
configs (`Graph.Configured`). The graph asks for less, since it looks only for configs that differ
from their initial state, and would then take all configs of the port with it, without regard to
patches and streams. But no initial config belongs to a connected port, so any config of the port is
in the way (`Graph.Grown.disconnect_configured`), and there is none left that could be taken away.

`Bay.disconnection_exact` gives the exact conditions of a disconnection and of the two kinds of
fault, and the bay that a disconnection leads to.
-/

namespace Patchbay

namespace Graph

/-- The port is that of a connected device. -/
def Attached (graph : Graph) (port : Key) : Prop :=
  port ∈ graph.connected.keys ∧
    ∃ entry, Table.find? graph.ports port = some entry ∧ entry.role.isDevice = true

/-- Some config belongs to the port. -/
def Configured (graph : Graph) (port : Key) : Prop :=
  ∃ config ∈ graph.configs, config.portId = port

instance (graph : Graph) (port : Key) : Decidable (graph.Configured port) :=
  inferInstanceAs (Decidable (∃ config ∈ graph.configs, _))

variable {topology : Topology} {graph : Graph} {port : Key}

/-- A port that is not attached is refused by one of the checks that come first. -/
theorem disconnect_of_not_attached (h : ¬ graph.Attached port) :
    ∃ fault, graph.disconnect port = .error fault ∧ fault.kind = .invalidArgument := by
  unfold disconnect
  simp only [bind_eq_error, port_eq_ok, require_eq_ok, require_eq_error]
  cases hfind : Table.find? graph.ports port with
  | none => exact ⟨.portNotFound port, .inl (present_eq_error.2 ⟨hfind, rfl⟩), rfl⟩
  | some entry =>
    by_cases hdevice : entry.role.isDevice = true
    · have hunknown : ¬ graph.connected.contains port = true := by
        intro hconnected
        exact h ⟨KeyMap.mem_keys.2 hconnected, entry, hfind, hdevice⟩
      exact ⟨.notConnected port,
        .inr ⟨entry, rfl, .inr ⟨(), hdevice, .inl ⟨hunknown, rfl⟩⟩⟩, rfl⟩
    · exact ⟨.notDevicePort port, .inr ⟨entry, rfl, .inl ⟨hdevice, rfl⟩⟩, rfl⟩

/-- An attached port is refused when one of its configs differs from its initial state. -/
theorem disconnect_of_customized {config : Config} (h : graph.Attached port)
    (hcustom : graph.customized? port = some config) :
    graph.disconnect port = .error (.portCustomized port config.id) := by
  obtain ⟨hconnected, entry, hfind, hdevice⟩ := h
  unfold disconnect
  simp only [bind_eq_error, port_eq_ok, require_eq_ok]
  refine .inr ⟨entry, hfind, .inr ⟨(), hdevice, .inr ⟨(), KeyMap.mem_keys.1 hconnected, ?_⟩⟩⟩
  rw [hcustom]
  rfl

section Attached

variable (hwf : topology.WellFormed) (h : graph.Grown topology) (hattached : graph.Attached port)

include hwf h hattached

/-- An attached port is customized as soon as it has a config. -/
theorem Grown.customized?_eq_none_iff : graph.customized? port = none ↔ ¬ graph.Configured port := by
  constructor
  · rintro hcustom ⟨config, hmem, hport⟩
    exact h.portId_ne hwf hattached.1 hcustom config hmem hport
  · intro hbare
    rw [customized?_eq_none]
    intro config hmem hport
    exact absurd ⟨config, hmem, hport⟩ hbare

theorem Grown.disconnect_configured (hconfigured : graph.Configured port) :
    ∃ fault, graph.disconnect port = .error fault ∧ fault.kind = .illegalState := by
  have hcustom := mt (h.customized?_eq_none_iff hwf hattached).1 (not_not_intro hconfigured)
  obtain ⟨config, hcustom⟩ := Option.ne_none_iff_exists'.1 hcustom
  exact ⟨.portCustomized port config.id, disconnect_of_customized hattached hcustom, rfl⟩

/-- An attached port without configs goes alone. -/
theorem Grown.disconnect_bare (hbare : ¬ graph.Configured port) :
    graph.disconnect port = .ok { graph with
      ports := graph.ports.filter (·.id != port)
      routes := Route.prune port graph.routes
      connected := graph.connected.erase port } := by
  have hcustom := (h.customized?_eq_none_iff hwf hattached).2 hbare
  have hports : Table.remove graph.ports port = graph.ports.filter (·.id != port) :=
    Table.remove_eq_filter (h.ports_nodup hwf)
  have hconfigs := h.withoutDevice_configs hwf hattached.1 hcustom
  have hinitial := h.withoutDevice_initialConfigs hwf hattached.1
  refine disconnect_eq_ok.2 ⟨hattached.2, KeyMap.mem_keys.1 hattached.1, hcustom, ?_⟩
  show Graph.mk _ _ _ _ _ _ _ = Graph.mk _ _ _ _ _ _ _
  rw [Graph.mk.injEq]
  exact ⟨hports.symm, hconfigs.symm, hinitial.symm, rfl, rfl, rfl, rfl⟩

/-- The ports are the one that goes and those that stay, in their order. -/
theorem Grown.exists_split_ports :
    ∃ before entry after, entry.id = port ∧ graph.ports = before ++ entry :: after ∧
      graph.ports.filter (·.id != port) = before ++ after := by
  obtain ⟨_, entry, hfind, _⟩ := hattached
  obtain ⟨entry, before, after, _, hkey, hsplit, hrest⟩ :=
    List.exists_of_eraseP (Table.mem_of_find? hfind) (List.find?_some hfind)
  have hid : Keyed.key entry = port := by simpa using hkey
  refine ⟨before, entry, after, hid, hsplit, ?_⟩
  exact (Table.remove_eq_filter (h.ports_nodup hwf)).symm.trans hrest

end Attached

end Graph

namespace Bay

variable {topology : Topology} {query : ProfileQuery} {bay : Bay} {port : Key}

theorem step_disconnect_of_error {fault : Fault}
    (hfault : bay.graph.disconnect port = .error fault) :
    bay.step (.disconnect port) = (.error fault, bay) := by
  apply step_of_error
  simp only [respond, bind_eq_error]
  exact .inl hfault

theorem step_disconnect_unattached (hunattached : ¬ bay.graph.Attached port) :
    ∃ fault, bay.step (.disconnect port) = (.error fault, bay) ∧
      fault.kind = .invalidArgument := by
  obtain ⟨fault, hfault, hkind⟩ := Graph.disconnect_of_not_attached hunattached
  exact ⟨fault, step_disconnect_of_error hfault, hkind⟩

section Attached

variable (h : Reachable topology query bay) (hattached : bay.graph.Attached port)

include h hattached

theorem step_disconnect_configured (hconfigured : bay.graph.Configured port) :
    ∃ fault, bay.step (.disconnect port) = (.error fault, bay) ∧ fault.kind = .illegalState := by
  obtain ⟨fault, hfault, hkind⟩ :=
    h.sound.graph.disconnect_configured h.wellFormed hattached hconfigured
  exact ⟨fault, step_disconnect_of_error hfault, hkind⟩

theorem step_disconnect_bare (hbare : ¬ bay.graph.Configured port) :
    bay.step (.disconnect port) = (.ok .done, { bay with graph := { bay.graph with
      ports := bay.graph.ports.filter (·.id != port)
      routes := Route.prune port bay.graph.routes
      connected := bay.graph.connected.erase port } }) := by
  apply step_of_respond
  simp only [respond, bind_eq_ok, pure_eq_ok]
  exact ⟨_, h.sound.graph.disconnect_bare h.wellFormed hattached hbare, rfl⟩

end Attached

/-- **A device goes when nothing is left on its port, and nothing goes with it.** In a reachable
bay, a disconnection gets a fault of the request when the port is not that of a connected device,
and a fault of the state when the port is attached and some config belongs to it. Otherwise it is
granted: the port goes, alone among the ports, with the routes that end at it and with its places
among the sources of other routes, and it is connected no more. All configs and their initial
states, patches and what they use, and streams are as before. -/
theorem disconnection_exact (h : Reachable topology query bay) (port : Key) :
    ((∃ fault, bay.step (.disconnect port) = (.error fault, bay) ∧
        fault.kind = .invalidArgument) ↔ ¬ bay.graph.Attached port) ∧
    ((∃ fault, bay.step (.disconnect port) = (.error fault, bay) ∧
        fault.kind = .illegalState) ↔
      bay.graph.Attached port ∧ bay.graph.Configured port) ∧
    (bay.graph.Attached port → ¬ bay.graph.Configured port →
      bay.step (.disconnect port) = (.ok .done, { bay with graph := { bay.graph with
        ports := bay.graph.ports.filter (·.id != port)
        routes := (bay.graph.routes.filter (·.sink != port)).map fun route =>
          { route with sources := route.sources.filter (· != port) }
        connected := bay.graph.connected.erase port } }) ∧
      ∃ before entry after, entry.id = port ∧ bay.graph.ports = before ++ entry :: after ∧
        (bay.step (.disconnect port)).2.graph.ports = before ++ after) := by
  refine ⟨⟨?_, step_disconnect_unattached⟩, ⟨?_, ?_⟩, ?_⟩
  · intro hfault hattached
    by_cases hconfigured : bay.graph.Configured port
    · cases kind_unique hfault (step_disconnect_configured h hattached hconfigured)
    · exact not_refused (step_disconnect_bare h hattached hconfigured) hfault
  · intro hfault
    have hattached : bay.graph.Attached port := by
      apply Classical.byContradiction
      intro hunattached
      cases kind_unique hfault (step_disconnect_unattached hunattached)
    refine ⟨hattached, Classical.byContradiction fun hbare => ?_⟩
    exact not_refused (step_disconnect_bare h hattached hbare) hfault
  · rintro ⟨hattached, hconfigured⟩
    exact step_disconnect_configured h hattached hconfigured
  · intro hattached hbare
    have hstep := step_disconnect_bare h hattached hbare
    refine ⟨hstep, ?_⟩
    rw [hstep]
    exact h.sound.graph.exists_split_ports h.wellFormed hattached

/-- Two USB outputs are connected, the first of them with a stream that is patched to it. -/
def guestSession : List Request :=
  [ .setDebug .simulated, .connectUsb 1, .connectUsb 2, .playPcm 3 2 .stereo,
    .playPcm 8 0 .stereo, .setPatch (.request [10] [11]), .openOutput 10 960 ⟨[]⟩ none ]

/-- The template is not attached, the first output is in use, and the second one goes: it was a sink
of its own. -/
theorem guestSession_disconnections :
    ∃ bay, bay = ((builtIn .unavailable).run guestSession).2 ∧
      Reachable .builtIn .unavailable bay ∧
      (∃ fault, bay.step (.disconnect 6) = (.error fault, bay) ∧
        fault.kind = .invalidArgument) ∧
      (∃ fault, bay.step (.disconnect 8) = (.error fault, bay) ∧ fault.kind = .illegalState) ∧
      (∃ route ∈ bay.graph.routes, route.sink = 9) ∧
      bay.step (.disconnect 9) = (.ok .done, { bay with graph := { bay.graph with
        ports := bay.graph.ports.filter (·.id != 9)
        routes := (bay.graph.routes.filter (·.sink != 9)).map fun route =>
          { route with sources := route.sources.filter (· != 9) }
        connected := bay.graph.connected.erase 9 } }) := by
  have hstart : ofTopology? .builtIn .unavailable = .ok (builtIn .unavailable) := rfl
  have hreach := (Reachable.start hstart).run guestSession
  refine ⟨_, rfl, hreach, ?_, ?_, by decide, ?_⟩
  · obtain ⟨hunattached, _⟩ := disconnection_exact hreach 6
    refine hunattached.2 fun hattached => ?_
    exact absurd hattached.1 (by decide)
  · obtain ⟨_, hheld, _⟩ := disconnection_exact hreach 8
    exact hheld.2 ⟨⟨by decide, _, rfl, rfl⟩, by decide⟩
  · obtain ⟨_, _, hgranted⟩ := disconnection_exact hreach 9
    exact (hgranted ⟨by decide, _, rfl, rfl⟩ (by decide)).1

end Bay

end Patchbay
