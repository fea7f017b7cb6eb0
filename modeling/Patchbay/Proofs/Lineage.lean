import Patchbay.Proofs.SoundBay

/-!
# The routes of connected devices

A device is connected by way of a template, which may be the port of another device. Following the
templates leads from every port to a port of the topology, its root (`RootOf`). The state does
not remember templates, and a template may be gone while the ports that were made from it are still
there, so roots are read off the connections that a run has made (`Bay.connections`).

Between ports of different roots there are the same edges as between the roots in the topology
(`Bay.routes_mirror_roots`). The edge between the ports of two devices is made when the second of
them is connected, whichever that is, and the order makes no difference: `Route.joins_extend` says
that a new port gets all the edges of its template, those to other connected ports included.
-/

namespace Patchbay

/-- `root` is `port` itself if the topology has it, and otherwise the root of the template that
`port` was made from, according to the list `made` of ports and their templates. -/
inductive RootOf (topology : Topology) (made : List (Key × Key)) : Key → Key → Prop
  | declared {port : Key} : port ∈ Table.keys topology.ports → RootOf topology made port port
  | connected {port template root : Key} : port ∉ Table.keys topology.ports →
      (port, template) ∈ made → RootOf topology made template root → RootOf topology made port root

namespace RootOf

variable {topology : Topology} {made : List (Key × Key)} {port root root' : Key}

/-- Further connections leave roots as they are. -/
theorem append (h : RootOf topology made port root) (more : List (Key × Key)) :
    RootOf topology (made ++ more) port root := by
  induction h with
  | declared hport => exact .declared hport
  | connected hport hmade _ ih => exact .connected hport (List.mem_append_left _ hmade) ih

/-- When no port has been made from two templates, a port has one root. -/
theorem unique (hmade : ∀ pair ∈ made, ∀ other ∈ made, pair.1 = other.1 → pair = other)
    (h : RootOf topology made port root) (h' : RootOf topology made port root') :
    root = root' := by
  induction h with
  | declared hport =>
    cases h' with
    | declared _ => rfl
    | connected hport' _ _ => exact absurd hport hport'
  | connected hport hpair _ ih =>
    cases h' with
    | declared hport' => exact absurd hport' hport
    | connected _ hpair' h' =>
      cases hmade _ hpair _ hpair' rfl
      exact ih h'

/-- A new port has the root of its template, and other ports have the roots that they had. -/
theorem of_standIn {template key : Key} (hnew : port ∉ Table.keys topology.ports)
    (h : RootOf topology made (Route.standIn template port key) root) :
    RootOf topology (made ++ [(port, template)]) key root := by
  by_cases he : key = port
  · rw [he, Route.standIn_new] at h
    rw [he]
    exact .connected hnew List.mem_concat_self (h.append _)
  · rw [Route.standIn_old he] at h
    exact h.append _

end RootOf

/-- What the ports of a graph go back to: the ports in `made` were made under keys of their own,
every port has a root, and ports of different roots are joined as their roots are. -/
structure Graph.Descended (topology : Topology) (made : List (Key × Key)) (graph : Graph) :
    Prop where
  made_last : ∀ pair ∈ made, pair.1 ≤ graph.lastKey
  made_once : ∀ pair ∈ made, ∀ other ∈ made, pair.1 = other.1 → pair = other
  rooted : ∀ port ∈ Table.keys graph.ports, ∃ root, RootOf topology made port root
  edges : ∀ source ∈ Table.keys graph.ports, ∀ sink ∈ Table.keys graph.ports,
    ∀ sourceRoot sinkRoot, RootOf topology made source sourceRoot →
      RootOf topology made sink sinkRoot → sourceRoot ≠ sinkRoot → ∀ exclusive,
        (Route.Joins graph.routes exclusive source sink ↔
          Route.Joins topology.routes exclusive sourceRoot sinkRoot)

namespace Graph.Descended

variable {topology : Topology} {made : List (Key × Key)} {graph : Graph}

/-- In the graph of a topology every port is its own root. -/
theorem ofTopology : (ofTopology topology).Descended topology [] where
  made_last := nofun
  made_once := nofun
  rooted port hport := ⟨port, .declared hport⟩
  edges source _ sink _ sourceRoot sinkRoot hsource hsink _ exclusive := by
    cases hsource with
    | connected _ hmade _ => cases hmade
    | declared _ =>
      cases hsink with
      | connected _ hmade _ => cases hmade
      | declared _ => exact Iff.rfl

/-- Only ports, routes and the last key matter, and the last key may grow. -/
theorem congr (h : graph.Descended topology made) {other : Graph} (hports : other.ports = graph.ports)
    (hroutes : other.routes = graph.routes) (hlast : graph.lastKey ≤ other.lastKey) :
    other.Descended topology made where
  made_last pair hpair := Int32.le_trans (h.made_last pair hpair) hlast
  made_once := h.made_once
  rooted := hports ▸ h.rooted
  edges := by
    rw [hports, hroutes]
    exact h.edges

section Connection

variable {template : Key} {port : Port}

/-- The port that a port stands for was there before. -/
theorem standIn_mem (htemplate : template ∈ Table.keys graph.ports) {key : Key}
    (hmem : key ∈ Table.keys (graph.withDevice template port).ports) :
    Route.standIn template port.id key ∈ Table.keys graph.ports := by
  by_cases he : key = port.id
  · rw [he, Route.standIn_new]
    exact htemplate
  · rw [Route.standIn_old he]
    rw [keys_withDevice] at hmem
    rcases List.mem_append.1 hmem with hmem | hmem
    · exact hmem
    · exact absurd (List.mem_singleton.1 hmem) he

variable (h : graph.Descended topology made) (hgrown : graph.Grown topology)
  (hkey : graph.lastKey < port.id)

include h hkey

/-- The new port is made once. -/
theorem connect_once (template : Key) : ∀ pair ∈ made ++ [(port.id, template)],
    ∀ other ∈ made ++ [(port.id, template)], pair.1 = other.1 → pair = other := by
  have hnew : ∀ pair ∈ made, pair.1 ≠ port.id := by
    intro pair hpair he
    have hle := h.made_last pair hpair
    rw [he] at hle
    exact Int32.not_le.2 hkey hle
  intro pair hpair other hother he
  rcases List.mem_append.1 hpair with hpair | hpair <;>
    rcases List.mem_append.1 hother with hother | hother
  · exact h.made_once pair hpair other hother he
  · rw [List.mem_singleton.1 hother] at he
    exact absurd he (hnew pair hpair)
  · rw [List.mem_singleton.1 hpair] at he
    exact absurd he.symm (hnew other hother)
  · rw [List.mem_singleton.1 hpair, List.mem_singleton.1 hother]

include hgrown

/-- After a connection, the root of a port is that of the port that it stands for. -/
theorem rootOf_standIn (htemplate : template ∈ Table.keys graph.ports) {key root : Key}
    (hmem : key ∈ Table.keys (graph.withDevice template port).ports)
    (hroot : RootOf topology (made ++ [(port.id, template)]) key root) :
    RootOf topology made (Route.standIn template port.id key) root := by
  obtain ⟨old, hold⟩ := h.rooted _ (standIn_mem htemplate hmem)
  rw [hroot.unique (h.connect_once hkey template) (hold.of_standIn (hgrown.key_new hkey))]
  exact hold

/-- A new port goes back to what its template goes back to. -/
theorem withDevice (htemplate : template ∈ Table.keys graph.ports) :
    (graph.withDevice template port).Descended topology (made ++ [(port.id, template)]) := by
  refine
    { made_last := ?_, made_once := h.connect_once hkey template, rooted := ?_, edges := ?_ }
  · rw [List.forall_mem_append, List.forall_mem_singleton]
    refine ⟨?_, Int32.le_refl _⟩
    intro pair hpair
    exact Int32.le_trans (h.made_last pair hpair) (Int32.le_of_lt hkey)
  · intro key hmem
    obtain ⟨root, hroot⟩ := h.rooted _ (standIn_mem htemplate hmem)
    exact ⟨root, hroot.of_standIn (hgrown.key_new hkey)⟩
  · intro source hsource sink hsink sourceRoot sinkRoot hsourceRoot hsinkRoot hne exclusive
    have hsourceRoot := h.rootOf_standIn hgrown hkey htemplate hsource hsourceRoot
    have hsinkRoot := h.rootOf_standIn hgrown hkey htemplate hsink hsinkRoot
    -- two ports that stand for the same port have the same root
    have hapart : Route.standIn template port.id source ≠ Route.standIn template port.id sink := by
      intro he
      rw [he] at hsourceRoot
      exact hne (hsourceRoot.unique h.made_once hsinkRoot)
    have hnew := hgrown.wired.not_mentions (hgrown.port_not_mem hkey)
    exact (Route.joins_extend hnew hapart).trans
      (h.edges _ (standIn_mem htemplate hsource) _ (standIn_mem htemplate hsink) _ _
        hsourceRoot hsinkRoot hne exclusive)

end Connection

/-- The ports that are left when a device has gone go back to what they went back to before. -/
theorem withoutDevice (h : graph.Descended topology made) (hwf : topology.WellFormed)
    (hgrown : graph.Grown topology) (port : Key) :
    (graph.withoutDevice port).Descended topology made := by
  have hkept : ∀ key ∈ Table.keys (graph.withoutDevice port).ports,
      key ∈ Table.keys graph.ports ∧ key ≠ port := by
    intro key hmem
    rw [hgrown.withoutDevice_keys hwf] at hmem
    simpa using hmem
  refine { h with rooted := ?_, edges := ?_ }
  · intro key hmem
    exact h.rooted key (hkept key hmem).1
  · intro source hsource sink hsink sourceRoot sinkRoot hsourceRoot hsinkRoot hne exclusive
    obtain ⟨hsource, hsource_ne⟩ := hkept source hsource
    obtain ⟨hsink, hsink_ne⟩ := hkept sink hsink
    exact (Route.joins_prune hsource_ne hsink_ne).trans
      (h.edges source hsource sink hsink _ _ hsourceRoot hsinkRoot hne exclusive)

end Graph.Descended

namespace Bay

/-- The port that a request has made for a device, with its template, if it has made one. -/
def connection? : Request × Except Fault Answer → Option (Key × Key)
  | (.connect template, .ok (.port port)) => some (port.id, template.id)
  | _ => none

/-- The ports that are made for devices in a run, each with its template. -/
def connections (bay : Bay) (requests : List Request) : List (Key × Key) :=
  (requests.zip (bay.run requests).1).filterMap connection?

/-- After the requests, the bay has the port `port`, and its root is `root`. -/
structure Rooted (topology : Topology) (bay : Bay) (requests : List Request) (port root : Key) :
    Prop where
  present : port ∈ Table.keys (bay.run requests).2.graph.ports
  rootOf : RootOf topology (bay.connections requests) port root

variable {topology : Topology} {query : ProfileQuery} {bay next : Bay} {request : Request}
  {answer : Answer} {made : List (Key × Key)}

theorem connections_cons (bay : Bay) (request : Request) (rest : List Request) :
    bay.connections (request :: rest) =
      (connection? (request, (bay.step request).1)).toList ++
        (bay.step request).2.connections rest := by
  unfold connections
  rw [run_cons, List.zip_cons_cons, List.filterMap_cons]
  cases connection? (request, (bay.step request).1) <;> rfl

/-- An effect extends the list of connections by the one that it makes. -/
theorem Effect.descended (hwf : topology.WellFormed) (h : bay.Sound topology)
    (hdescended : bay.graph.Descended topology made) (he : Effect bay request answer next) :
    next.graph.Descended topology (made ++ (connection? (request, .ok answer)).toList) := by
  -- all but a connection leave the list as it is
  have hnone : ∀ {graph : Graph}, connection? (request, .ok answer) = none →
      graph.Descended topology made →
        graph.Descended topology (made ++ (connection? (request, .ok answer)).toList) := by
    intro graph hconnection hgraph
    rw [hconnection, Option.toList_none, List.append_nil]
    exact hgraph
  cases he with
  | createConfig _ _ _ _ hkey =>
    have hlast := Int32.le_of_lt (Key.lt_of_next? hkey)
    exact hnone rfl (hdescended.congr rfl rfl hlast)
  | connect hconnect =>
    obtain ⟨htemplate, hkey, _, rfl⟩ := Graph.connect_eq_withDevice hconnect
    exact hdescended.withDevice h.graph (Key.lt_of_next? hkey) htemplate
  | disconnect hdisconnect =>
    obtain ⟨_, _, _, rfl⟩ := Graph.disconnect_eq_ok.1 hdisconnect
    exact hnone rfl (hdescended.withoutDevice hwf h.graph _)
  | _ => exact hnone rfl (hdescended.congr rfl rfl (Int32.le_refl _))

/-- What every effect preserves, given the connections that have been made before it, holds after
a run with the connections of the whole run. -/
theorem Reachable.run_connections {motive : List (Key × Key) → Bay → Prop}
    (h : Reachable topology query bay) (hfirst : motive made bay)
    (heffect : ∀ {made : List (Key × Key)} {bay next : Bay} {request : Request} {answer : Answer},
      Reachable topology query bay → motive made bay → Effect bay request answer next →
        motive (made ++ (connection? (request, .ok answer)).toList) next)
    (requests : List Request) :
    motive (made ++ bay.connections requests) (bay.run requests).2 := by
  induction requests generalizing bay made with
  | nil =>
    show motive (made ++ []) bay
    rw [List.append_nil]
    exact hfirst
  | cons request rest ih =>
    rw [connections_cons, run_cons, ← List.append_assoc]
    apply ih (h.step request)
    rcases step_cases bay request with ⟨answer, next, hstep, he⟩ | ⟨fault, hstep⟩
    · rw [hstep]
      exact heffect h hfirst he
    · rw [hstep]
      have hnone : connection? (request, .error fault) = none := by cases request <;> rfl
      rw [hnone, Option.toList_none, List.append_nil]
      exact hfirst

/-- What the ports go back to is told by the connections of the whole run. -/
theorem Reachable.run_descended (h : Reachable topology query bay)
    (hdescended : bay.graph.Descended topology made) (requests : List Request) :
    (bay.run requests).2.graph.Descended topology (made ++ bay.connections requests) := by
  refine h.run_connections (motive := fun made bay => bay.graph.Descended topology made)
    hdescended ?_ requests
  intro made bay next request answer hreach hbay he
  exact he.descended hreach.wellFormed hreach.sound hbay

theorem descended_of_ofTopology? (h : ofTopology? topology query = .ok bay)
    (requests : List Request) :
    (bay.run requests).2.graph.Descended topology (bay.connections requests) := by
  have hstart : bay.graph.Descended topology [] := by
    obtain ⟨_, ledger, _, rfl⟩ := ofTopology?_eq_ok h
    exact .ofTopology
  exact (Reachable.start h).run_descended hstart requests

/-- **Routes mirror the connected devices.** After any run, every port has exactly one root, and
ports of different roots are joined, by exclusive routes and by others, exactly as their roots are
in the topology. So it depends on the roots of two ports only whether they are joined: it is the
same after any other run, whatever devices came and went in what order. -/
theorem routes_mirror_roots (hstart : ofTopology? topology query = .ok bay)
    (requests : List Request) :
    (∀ port ∈ Table.keys (bay.run requests).2.graph.ports,
      ∃ root, Rooted topology bay requests port root ∧
        ∀ other, Rooted topology bay requests port other → other = root) ∧
    (∀ source sink sourceRoot sinkRoot exclusive,
      Rooted topology bay requests source sourceRoot → Rooted topology bay requests sink sinkRoot →
      sourceRoot ≠ sinkRoot →
        (Route.Joins (bay.run requests).2.graph.routes exclusive source sink ↔
          Route.Joins topology.routes exclusive sourceRoot sinkRoot)) ∧
    ∀ others source sink source' sink' sourceRoot sinkRoot exclusive,
      Rooted topology bay requests source sourceRoot → Rooted topology bay requests sink sinkRoot →
      Rooted topology bay others source' sourceRoot → Rooted topology bay others sink' sinkRoot →
      sourceRoot ≠ sinkRoot →
        (Route.Joins (bay.run requests).2.graph.routes exclusive source sink ↔
          Route.Joins (bay.run others).2.graph.routes exclusive source' sink') := by
  have hdescended := descended_of_ofTopology? hstart
  have hmirror : ∀ requests source sink sourceRoot sinkRoot exclusive,
      Rooted topology bay requests source sourceRoot → Rooted topology bay requests sink sinkRoot →
      sourceRoot ≠ sinkRoot →
        (Route.Joins (bay.run requests).2.graph.routes exclusive source sink ↔
          Route.Joins topology.routes exclusive sourceRoot sinkRoot) := by
    intro requests source sink sourceRoot sinkRoot exclusive hsource hsink hne
    exact (hdescended requests).edges source hsource.present sink hsink.present _ _
      hsource.rootOf hsink.rootOf hne exclusive
  refine ⟨?_, hmirror requests, ?_⟩
  · intro port hport
    obtain ⟨root, hroot⟩ := (hdescended requests).rooted port hport
    refine ⟨root, ⟨hport, hroot⟩, ?_⟩
    intro other hother
    exact hother.rootOf.unique (hdescended requests).made_once hroot
  · intro others source sink source' sink' sourceRoot sinkRoot exclusive hsource hsink hsource'
      hsink' hne
    rw [hmirror requests source sink _ _ exclusive hsource hsink hne,
      hmirror others source' sink' _ _ exclusive hsource' hsink' hne]

/-- The built-in topology with a route from USB inputs to USB outputs, and without profiles for
connected devices, so that their ports may be templates again. -/
def usbLoop : Topology :=
  { Topology.builtIn with
    routes := Topology.BuiltIn.routes ++ [{ sources := [7], sink := 6, exclusive := true }]
    connectedProfiles := ∅ }

/-- A USB output is connected by way of another one, which goes, and a USB input comes last. -/
def usbLoopLate : List Request :=
  [.setDebug .simulated, .plug 6 1, .plug 8 2, .disconnect 8, .plug 7 3]

/-- A USB input is connected first and a USB output after it. -/
def usbLoopEarly : List Request :=
  [.setDebug .simulated, .plug 7 3, .plug 6 1]

theorem usbLoop_mirrored :
    ∃ bay, ofTopology? usbLoop .unavailable = .ok bay ∧
      Rooted usbLoop bay usbLoopLate 10 7 ∧ Rooted usbLoop bay usbLoopLate 9 6 ∧
      Rooted usbLoop bay usbLoopEarly 8 7 ∧ Rooted usbLoop bay usbLoopEarly 9 6 ∧
      Route.Joins (bay.run usbLoopLate).2.graph.routes true 10 9 ∧
      (Route.Joins (bay.run usbLoopLate).2.graph.routes true 10 9 ↔
        Route.Joins (bay.run usbLoopEarly).2.graph.routes true 8 9) := by
  have hstart : ofTopology? usbLoop .unavailable = .ok (start usbLoop .empty .unavailable) := rfl
  have hlate := routes_mirror_roots hstart usbLoopLate
  have hinput : Rooted usbLoop (start usbLoop .empty .unavailable) usbLoopLate 10 7 :=
    ⟨by decide, .connected (by decide) (by decide) (.declared (by decide))⟩
  have hgone : RootOf usbLoop (connections (start usbLoop .empty .unavailable) usbLoopLate) 8 6 :=
    .connected (by decide) (by decide) (.declared (by decide))
  have houtput : Rooted usbLoop (start usbLoop .empty .unavailable) usbLoopLate 9 6 :=
    ⟨by decide, .connected (by decide) (by decide) hgone⟩
  have hinput' : Rooted usbLoop (start usbLoop .empty .unavailable) usbLoopEarly 8 7 :=
    ⟨by decide, .connected (by decide) (by decide) (.declared (by decide))⟩
  have houtput' : Rooted usbLoop (start usbLoop .empty .unavailable) usbLoopEarly 9 6 :=
    ⟨by decide, .connected (by decide) (by decide) (.declared (by decide))⟩
  have hjoined : Route.Joins usbLoop.routes true 7 6 := by decide
  refine ⟨_, hstart, hinput, houtput, hinput', houtput', ?_, ?_⟩
  · exact (hlate.2.1 10 9 7 6 true hinput houtput (by decide)).2 hjoined
  · exact hlate.2.2 usbLoopEarly 10 9 8 9 7 6 true hinput houtput hinput' houtput' (by decide)

end Bay

end Patchbay
