import Patchbay.Bay.Request
import Patchbay.Proofs.Ledger

/-!
# Answers without side effects

A request runs as an action that could change the bay and be refused afterwards. Only the
update of a patch does, and it takes the change back: `Bay.respond` computes the answer to
a request together with the next bay, or a fault alone, and `Bay.step_eq_settle` says that
a step does just that.
-/

namespace Patchbay

namespace Bay

/-- The bay with another table of configs. -/
def withConfigs (bay : Bay) (configs : List Config) : Bay :=
  { bay with graph := { bay.graph with configs } }

/-- The answer to a request for a suggested config: it is stored when it applies. -/
def settleConfig (bay : Bay) (update : Bool) (suggestion : Suggestion) :
    Except Fault (Answer × Bay) :=
  if suggestion.applies update then
    if update then
      .ok (.config suggestion.config true,
        bay.withConfigs (Table.replace suggestion.config bay.graph.configs))
    else do
      let key ← bay.graph.freshKey
      let config := { suggestion.config with id := key }
      return (.config config true,
        { bay with graph :=
          { bay.graph with configs := bay.graph.configs ++ [config], lastKey := key } })
  else .ok (.config suggestion.config false, bay)

/-- The answer to a request and the bay that it leads to. -/
def respond (bay : Bay) : Request → Except Fault (Answer × Bay)
  | .setConfig request => do
    let current ← bay.requestedConfig request
    let portId := (current.getD request).portId
    require (portId ≠ 0) .portUnspecified
    let port ← present (Table.find? bay.graph.ports portId) (.portMissing portId)
    let suggestion ← port.suggest request current
    bay.settleConfig current.isSome suggestion
  | .resetConfig config => do
    require (Table.holds bay.graph.configs config) (.configNotFound config)
    require (!bay.hasStream config) (.configHasOpenStream config)
    if let some patch := bay.ledger.using? config then
      throw (.configPatched config patch)
    match Table.find? bay.graph.initialConfigs config with
    | some initial =>
      return (.done, bay.withConfigs (Table.replace initial bay.graph.configs))
    | none => return (.done, bay.withConfigs (Table.remove bay.graph.configs config))
  | .setPatch request => do
    let (patch, ledger) ←
      bay.ledger.accept request bay.graph.configs bay.graph.routes bay.limits
    return (.patch patch, { bay with ledger })
  | .resetPatch patch => do
    let ledger ← bay.ledger.reset patch
    return (.done, { bay with ledger })
  | .connect template => do
    let (port, graph) ← bay.graph.connect template bay.debug.simulateConnections bay.query
    return (.port port, { bay with graph })
  | .disconnect port => do
    let graph ← bay.graph.disconnect port
    return (.done, { bay with graph })
  | .openInput config frames metadata => do
    let (entry, port) ← bay.streamPlace config
    require (port.flags.direction = .input) (.notInputPort config)
    let buffer ← Buffer.sized entry frames bay.limits
    let stream := .input config metadata
    return (.stream buffer stream,
      { bay with streams := bay.streams.insert config { port := port.id, stream } })
  | .openOutput config frames metadata offload => do
    let (entry, port) ← bay.streamPlace config
    require (port.flags.direction = .output) (.notOutputPort config)
    require (port.flags.has .compressOffload → offload.isSome) (.offloadInfoMissing port.id)
    let buffer ← Buffer.sized entry frames bay.limits
    let stream := .output config metadata offload
    return (.stream buffer stream,
      { bay with streams := bay.streams.insert config { port := port.id, stream } })
  | .closeStream config => do
    require (bay.hasStream config) (.noStream config)
    return (.done, { bay with streams := bay.streams.erase config })
  | .setDebug flags => do
    require (bay.debug.changesSimulation flags → bay.graph.connected.isEmpty) .simulationFixed
    return (.done, { bay with debug := flags })

/-- A patch that is not admitted leaves the bay as it was, since it does so with the ledger. -/
theorem run_setPatch (bay : Bay) (request : Patch) :
    (setPatch request).run bay =
      Action.settle bay
        ((bay.ledger.accept request bay.graph.configs bay.graph.routes bay.limits).map
          fun (patch, ledger) => (patch, { bay with ledger })) := by
  have hset := Ledger.set_eq_settle bay.ledger request bay.graph.configs bay.graph.routes
    bay.limits
  unfold setPatch
  rw [Action.run_get]
  exact Action.run_within rfl hset

/-- A step answers as `respond` says, and a fault leaves the bay as it was. -/
theorem step_eq_settle (bay : Bay) (request : Request) :
    bay.step request = Action.settle bay (bay.respond request) := by
  unfold step Request.act respond
  cases request with
  | setConfig request =>
    simp only [setConfig, bind_assoc, Action.run_get]
    refine Action.run_check fun current => Action.run_check fun _ => Action.run_check fun port =>
      Action.run_check fun suggestion => ?_
    unfold settleConfig
    split
    · split
      · rfl
      · simp only [createConfig, bind_assoc, Action.run_get]
        exact Action.run_check fun key => rfl
    · rfl
  | resetConfig config =>
    simp only [resetConfig, bind_assoc, Action.run_get]
    refine Action.run_check fun _ => Action.run_check fun _ => ?_
    cases bay.ledger.using? config with
    | some patch => rfl
    | none => cases Table.find? bay.graph.initialConfigs config <;> rfl
  | setPatch request =>
    simp only [Action.run_bind, run_setPatch]
    cases bay.ledger.accept request bay.graph.configs bay.graph.routes bay.limits with
    | ok result => rfl
    | error fault => rfl
  | resetPatch patch =>
    simp only [resetPatch, bind_assoc, Action.run_get]
    exact Action.run_check fun _ => rfl
  | connect template =>
    simp only [connect, bind_assoc, Action.run_get]
    exact Action.run_check fun _ => rfl
  | disconnect port =>
    simp only [disconnect, bind_assoc, Action.run_get]
    exact Action.run_check fun _ => rfl
  | openInput config frames metadata =>
    simp only [openInput, bind_assoc, Action.run_get]
    exact Action.run_check fun _ => Action.run_check fun _ => Action.run_check fun _ => rfl
  | openOutput config frames metadata offload =>
    simp only [openOutput, bind_assoc, Action.run_get]
    exact Action.run_check fun _ => Action.run_check fun _ => Action.run_check fun _ =>
      Action.run_check fun _ => rfl
  | closeStream config =>
    simp only [closeStream, bind_assoc, Action.run_get]
    exact Action.run_check fun _ => rfl
  | setDebug flags =>
    simp only [setDebug, bind_assoc, Action.run_get]
    exact Action.run_check fun _ => rfl

theorem step_of_respond {request : Request} {answer : Answer} {bay next : Bay}
    (h : bay.respond request = .ok (answer, next)) : bay.step request = (.ok answer, next) := by
  rw [step_eq_settle, h]
  rfl

theorem respond_resetPatch_of_ok {patch : Key} {bay : Bay} {ledger : Ledger}
    (hreset : bay.ledger.reset patch = .ok ledger) :
    bay.respond (.resetPatch patch) = .ok (.done, { bay with ledger }) := by
  simp only [respond, bind_eq_ok, pure_eq_ok]
  exact ⟨ledger, hreset, rfl⟩

theorem step_eq_error {request : Request} {fault : Fault} {bay : Bay} :
    (bay.step request).1 = .error fault ↔ bay.respond request = .error fault := by
  rw [step_eq_settle]
  cases bay.respond request with
  | ok result => simp [Action.settle]
  | error other => simp [Action.settle]

theorem step_eq_ok {request : Request} {answer : Answer} {bay next : Bay} :
    bay.step request = (.ok answer, next) ↔ bay.respond request = .ok (answer, next) := by
  rw [step_eq_settle]
  cases bay.respond request with
  | ok result => simp [Action.settle, Prod.ext_iff]
  | error fault => simp [Action.settle]

/-- A request that is refused leaves the bay as it was. -/
theorem step_of_error {request : Request} {fault : Fault} {bay : Bay}
    (h : bay.respond request = .error fault) : bay.step request = (.error fault, bay) := by
  rw [step_eq_settle, h]
  rfl

/-- The faults of a request are of one kind. -/
theorem kind_unique {request : Request} {bay : Bay} {kind other : FaultKind}
    (h : ∃ fault, bay.step request = (.error fault, bay) ∧ fault.kind = kind)
    (h' : ∃ fault, bay.step request = (.error fault, bay) ∧ fault.kind = other) :
    kind = other := by
  obtain ⟨fault, hfault, hkind⟩ := h
  obtain ⟨fault', hfault', hkind'⟩ := h'
  cases hfault.symm.trans hfault'
  rw [← hkind, hkind']

/-- A request that is granted is not refused. -/
theorem not_refused {request : Request} {answer : Answer} {bay next : Bay} {kind : FaultKind}
    (h : bay.step request = (.ok answer, next)) :
    ¬ ∃ fault, bay.step request = (.error fault, bay) ∧ fault.kind = kind := by
  rintro ⟨fault, hfault, _⟩
  cases hfault.symm.trans h

theorem isOk_step_iff {request : Request} {bay : Bay} :
    (bay.step request).1.isOk = true ↔ ∃ result, bay.respond request = .ok result := by
  rw [step_eq_settle]
  cases bay.respond request with
  | ok result => simp [Action.settle, Except.isOk, Except.toBool]
  | error fault => simp [Action.settle, Except.isOk, Except.toBool]

end Bay

end Patchbay
