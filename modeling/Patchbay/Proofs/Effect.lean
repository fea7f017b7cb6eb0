import Patchbay.Proofs.Hotplug
import Patchbay.Proofs.Respond

/-!
# Effects of granted requests

`Bay.Effect` lists what a granted request can do to a bay, one case for each way in which
a table changes, with the checks that have passed. Invariants are proved over its cases
(`Bay.step_induction`), and no later proof opens an operation again. States are those that
some run reaches from a topology (`Bay.Reachable`).
-/

namespace Patchbay

namespace Bay

/-- What a granted request answers, and the bay that it leads to. -/
inductive Effect (bay : Bay) : Request → Answer → Bay → Prop
  | suggest {request : Config} {current : Option Config} {port : Port}
      {suggestion : Suggestion} :
      bay.requestedConfig request = .ok current →
      port.suggest request current = .ok suggestion →
      suggestion.applies current.isSome = false →
      Effect bay (.setConfig request) (.config suggestion.config false) bay
  | updateConfig {request config : Config} {port : Port} {suggestion : Suggestion} :
      request.id ≠ 0 →
      Table.find? bay.graph.configs request.id = some config →
      Table.find? bay.graph.ports config.portId = some port →
      port.suggest request (some config) = .ok suggestion →
      suggestion.applies true = true →
      Effect bay (.setConfig request) (.config suggestion.config true)
        (bay.withConfigs (Table.replace suggestion.config bay.graph.configs))
  | createConfig {request : Config} {port : Port} {suggestion : Suggestion} {key : Key} :
      request.id = 0 →
      Table.find? bay.graph.ports request.portId = some port →
      port.suggest request none = .ok suggestion →
      suggestion.applies false = true →
      bay.graph.lastKey.next? = some key →
      Effect bay (.setConfig request) (.config { suggestion.config with id := key } true)
        { bay with graph := { bay.graph with
          configs := bay.graph.configs ++ [{ suggestion.config with id := key }]
          lastKey := key } }
  | restoreConfig {config : Key} {initial : Config} :
      Table.holds bay.graph.configs config = true →
      Table.find? bay.graph.initialConfigs config = some initial →
      Effect bay (.resetConfig config) .done
        (bay.withConfigs (Table.replace initial bay.graph.configs))
  | removeConfig {config : Key} :
      bay.hasStream config = false →
      bay.ledger.using? config = none →
      Table.find? bay.graph.initialConfigs config = none →
      Effect bay (.resetConfig config) .done
        (bay.withConfigs (Table.remove bay.graph.configs config))
  | setPatch {request patch : Patch} {ledger : Ledger} :
      bay.ledger.accept request bay.graph.configs bay.graph.routes bay.limits =
        .ok (patch, ledger) →
      Effect bay (.setPatch request) (.patch patch) { bay with ledger }
  | resetPatch {patch : Key} {ledger : Ledger} :
      bay.ledger.reset patch = .ok ledger →
      Effect bay (.resetPatch patch) .done { bay with ledger }
  | connect {template port : Port} {graph : Graph} :
      bay.graph.connect template bay.debug.simulateConnections bay.query = .ok (port, graph) →
      Effect bay (.connect template) (.port port) { bay with graph }
  | disconnect {port : Key} {graph : Graph} :
      bay.graph.disconnect port = .ok graph →
      Effect bay (.disconnect port) .done { bay with graph }
  | openInput {config : Key} {frames : Int64} {metadata : Metadata} {entry : Config}
      {port : Port} {buffer : Buffer} :
      bay.streamPlace config = .ok (entry, port) →
      port.flags.direction = .input →
      Effect bay (.openInput config frames metadata) (.stream buffer (.input config metadata))
        { bay with streams := bay.streams.insert config ⟨port.id, .input config metadata⟩ }
  | openOutput {config : Key} {frames : Int64} {metadata : Metadata}
      {offload : Option OffloadInfo} {entry : Config} {port : Port} {buffer : Buffer} :
      bay.streamPlace config = .ok (entry, port) →
      port.flags.direction = .output →
      (port.flags.has .compressOffload → offload.isSome) →
      Effect bay (.openOutput config frames metadata offload)
        (.stream buffer (.output config metadata offload))
        { bay with
          streams := bay.streams.insert config ⟨port.id, .output config metadata offload⟩ }
  | closeStream {config : Key} :
      bay.hasStream config = true →
      Effect bay (.closeStream config) .done { bay with streams := bay.streams.erase config }
  | setDebug {flags : DebugFlags} :
      (bay.debug.changesSimulation flags → bay.graph.connected.isEmpty) →
      Effect bay (.setDebug flags) .done { bay with debug := flags }

variable {bay next : Bay} {answer : Answer}

/-- A request names no config, or one that exists. -/
theorem requestedConfig_eq_ok {request : Config} {current : Option Config} :
    bay.requestedConfig request = .ok current ↔
      (request.id = 0 ∧ current = none) ∨
        (request.id ≠ 0 ∧ ∃ config, current = some config ∧
          Table.find? bay.graph.configs request.id = some config) := by
  unfold requestedConfig
  by_cases hid : request.id = 0
  · rw [if_pos hid, Except.ok.injEq]
    exact ⟨fun h => .inl ⟨hid, h.symm⟩, fun h => (h.resolve_right fun h => h.1 hid).2.symm⟩
  · rw [if_neg hid]
    cases hfind : Table.find? bay.graph.configs request.id with
    | none => simp [present, Except.map, hid]
    | some config =>
      show Except.ok (some config) = Except.ok current ↔ _
      simp [hid, eq_comm]

/-- The case of `effect_of_respond` in which a suggestion has been made. -/
theorem effect_of_settleConfig {request : Config} {current : Option Config} {port : Port}
    {suggestion : Suggestion} (hcurrent : bay.requestedConfig request = .ok current)
    (hport : Table.find? bay.graph.ports (current.getD request).portId = some port)
    (hsuggest : port.suggest request current = .ok suggestion)
    (h : bay.settleConfig current.isSome suggestion = .ok (answer, next)) :
    Effect bay (.setConfig request) answer next := by
  unfold settleConfig at h
  by_cases happlies : suggestion.applies current.isSome = true
  · rw [if_pos happlies] at h
    rcases requestedConfig_eq_ok.1 hcurrent with ⟨hid, rfl⟩ | ⟨hid, config, rfl, hfind⟩
    · simp only [Option.isSome_none, Bool.false_eq_true, if_false, bind_eq_ok, pure_eq_ok,
        Graph.freshKey_eq_ok] at h
      obtain ⟨key, hkey, heq⟩ := h
      cases heq
      exact .createConfig hid hport hsuggest happlies hkey
    · simp only [Option.isSome_some, if_true] at h
      cases h
      exact .updateConfig hid hfind hport hsuggest happlies
  · rw [if_neg happlies] at h
    cases h
    exact .suggest hcurrent hsuggest (Bool.eq_false_iff.2 happlies)

/-- Every answer comes with an effect. -/
theorem effect_of_respond {request : Request}
    (h : bay.respond request = .ok (answer, next)) : Effect bay request answer next := by
  cases request with
  | setConfig request =>
    simp only [respond, bind_eq_ok, require_eq_ok, present_eq_ok] at h
    obtain ⟨current, hcurrent, _, _, port, hport, suggestion, hsuggest, h⟩ := h
    exact effect_of_settleConfig hcurrent hport hsuggest h
  | resetConfig config =>
    simp only [respond, bind_eq_ok, require_eq_ok] at h
    obtain ⟨_, hholds, _, hstream, h⟩ := h
    cases husing : bay.ledger.using? config with
    | some patch => simp [husing, throw, throwThe, MonadExceptOf.throw] at h
    | none =>
      cases hinitial : Table.find? bay.graph.initialConfigs config with
      | some initial =>
        simp only [husing, hinitial, pure_eq_ok] at h
        cases h
        exact .restoreConfig hholds hinitial
      | none =>
        simp only [husing, hinitial, pure_eq_ok] at h
        cases h
        exact .removeConfig (by simpa using hstream) husing hinitial
  | setPatch request =>
    simp only [respond, bind_eq_ok, pure_eq_ok] at h
    obtain ⟨⟨patch, ledger⟩, haccept, heq⟩ := h
    cases heq
    exact .setPatch haccept
  | resetPatch patch =>
    simp only [respond, bind_eq_ok, pure_eq_ok] at h
    obtain ⟨ledger, hreset, heq⟩ := h
    cases heq
    exact .resetPatch hreset
  | connect template =>
    simp only [respond, bind_eq_ok, pure_eq_ok] at h
    obtain ⟨⟨port, graph⟩, hconnect, heq⟩ := h
    cases heq
    exact .connect hconnect
  | disconnect port =>
    simp only [respond, bind_eq_ok, pure_eq_ok] at h
    obtain ⟨graph, hdisconnect, heq⟩ := h
    cases heq
    exact .disconnect hdisconnect
  | openInput config frames metadata =>
    simp only [respond, bind_eq_ok, require_eq_ok, pure_eq_ok] at h
    obtain ⟨⟨entry, port⟩, hplace, _, hdirection, buffer, _, heq⟩ := h
    cases heq
    exact .openInput hplace hdirection
  | openOutput config frames metadata offload =>
    simp only [respond, bind_eq_ok, require_eq_ok, pure_eq_ok] at h
    obtain ⟨⟨entry, port⟩, hplace, _, hdirection, _, hoffload, buffer, _, heq⟩ := h
    cases heq
    exact .openOutput hplace hdirection hoffload
  | closeStream config =>
    simp only [respond, bind_eq_ok, require_eq_ok, pure_eq_ok] at h
    obtain ⟨_, hstream, heq⟩ := h
    cases heq
    exact .closeStream hstream
  | setDebug flags =>
    simp only [respond, bind_eq_ok, require_eq_ok, pure_eq_ok] at h
    obtain ⟨_, hflags, heq⟩ := h
    cases heq
    exact .setDebug hflags

/-- A step has an effect or is refused, and a refusal leaves the bay as it was. -/
theorem step_cases (bay : Bay) (request : Request) :
    (∃ answer next, bay.step request = (.ok answer, next) ∧ Effect bay request answer next) ∨
      ∃ fault, bay.step request = (.error fault, bay) := by
  rw [step_eq_settle]
  cases h : bay.respond request with
  | ok result => exact .inl ⟨result.1, result.2, rfl, effect_of_respond h⟩
  | error fault => exact .inr ⟨fault, rfl⟩

/-- What every effect preserves is preserved by every step. -/
theorem step_induction {motive : Bay → Prop} {request : Request} (h : motive bay)
    (heffect : ∀ answer next, Effect bay request answer next → motive next) :
    motive (bay.step request).2 := by
  rcases step_cases bay request with ⟨answer, next, hstep, he⟩ | ⟨fault, hstep⟩
  · rw [hstep]
    exact heffect answer next he
  · rw [hstep]
    exact h

/-- A run takes one step and goes on from there. -/
theorem run_cons (bay : Bay) (request : Request) (rest : List Request) :
    bay.run (request :: rest) =
      ((bay.step request).1 :: ((bay.step request).2.run rest).1,
        ((bay.step request).2.run rest).2) :=
  rfl

theorem run_append (bay : Bay) (first second : List Request) :
    bay.run (first ++ second) =
      ((bay.run first).1 ++ ((bay.run first).2.run second).1,
        ((bay.run first).2.run second).2) := by
  induction first generalizing bay with
  | nil => rfl
  | cons request rest ih =>
    rw [List.cons_append, run_cons, run_cons, ih]
    rfl

/-- The bays that can be reached from a topology by requests of any kind. The query for profiles is
one function for the whole run: it finds out the same about a device whenever it is asked. -/
inductive Reachable (topology : Topology) (query : ProfileQuery) : Bay → Prop
  | start {bay : Bay} : ofTopology? topology query = .ok bay → Reachable topology query bay
  | step {bay : Bay} (request : Request) :
      Reachable topology query bay → Reachable topology query (bay.step request).2

/-- A run stays among the reachable bays. -/
theorem Reachable.run {topology : Topology} {query : ProfileQuery}
    (h : Reachable topology query bay) (requests : List Request) :
    Reachable topology query (bay.run requests).2 := by
  induction requests generalizing bay with
  | nil => exact h
  | cons request rest ih =>
    rw [run_cons]
    exact ih (h.step request)

end Bay

/-! ## Requests to make sessions of -/

namespace Request

/-- Connects a USB output to the built-in topology. -/
def connectUsb (card : Int32) : Request :=
  .connect
    { id := Topology.BuiltIn.usbOutput, name := "USB Out", profiles := []
      flags := ⟨.output, 0⟩, role := .device ⟨⟨.outDevice, "usb"⟩, .alsa [card, 0]⟩ 0
      extraDescriptors := [] }

/-- Connects a device with the given card number by way of a template. -/
def plug (template : Key) (card : Int32) : Request :=
  .connect
    { id := template, name := "", profiles := [], flags := ⟨.output, 0⟩
      role := .device ⟨⟨.outDevice, "usb"⟩, .alsa [card, 0]⟩ 0, extraDescriptors := [] }

/-- Creates a config for 16-bit audio at 48 kHz on an output port with the given flags. -/
def playPcm (port : Key) (flags : UInt32) (layout : Layout) : Request :=
  .setConfig
    { Config.blank with
      portId := port, sampleRate := some 48000, layout := some layout
      format := some (.pcm .int16), flags := some ⟨.output, flags⟩ }

/-- Creates a config for compressed audio on the port of the built-in topology for it. -/
def playCompressed : Request :=
  .setConfig
    { Config.blank with
      portId := Topology.BuiltIn.compressedOffload, sampleRate := some 44100
      layout := some .stereo, format := some (.encoded "audio/mpeg"), flags := some ⟨.output, 49⟩ }

end Request

end Patchbay
