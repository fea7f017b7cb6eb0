import Patchbay.Bay
import Patchbay.Stream.Buffer
import Patchbay.Suggestion

/-!
# Requests to a bay

Everything a client can ask a bay to change. A request runs as an action on the bay that
ends with an answer or a fault; the bay goes on from the state in which the action left
it, also after a fault.
-/

namespace Patchbay

/-- An action on a bay. -/
abbrev Act := Action Bay

/-- What a client can ask for. -/
inductive Request
  | setConfig (config : Config)
  | resetConfig (config : Key)
  | setPatch (patch : Patch)
  | resetPatch (patch : Key)
  | connect (template : Port)
  | disconnect (port : Key)
  | openInput (config : Key) (frames : Int64) (metadata : Metadata)
  | openOutput (config : Key) (frames : Int64) (metadata : Metadata)
      (offload : Option OffloadInfo)
  | closeStream (config : Key)
  | setDebug (flags : DebugFlags)
  deriving DecidableEq, Repr

/-- What a bay answers to a request that it grants. -/
inductive Answer
  | done
  | config (suggested : Config) (applied : Bool)
  | patch (patch : Patch)
  | port (port : Port)
  | stream (buffer : Buffer) (stream : Stream)
  deriving DecidableEq, Repr

namespace Bay

/-- Stores a new config under a fresh key. -/
def createConfig (config : Config) : Act Config := do
  let bay ← get
  let key ← bay.graph.freshKey
  let config := { config with id := key }
  set { bay with graph := { bay.graph with
    configs := bay.graph.configs ++ [config], lastKey := key } }
  return config

/-- Puts `config` in the place of the config with its key. -/
def storeConfig (config : Config) : Act Unit :=
  modify fun bay => { bay with graph := { bay.graph with
    configs := Table.replace config bay.graph.configs } }

/-- The config that a request names, if it names one. -/
def requestedConfig (bay : Bay) (request : Config) : Except Fault (Option Config) :=
  if request.id = 0 then .ok none
  else (present (Table.find? bay.graph.configs request.id) (.noSuchConfig request.id)).map some

/-- Creates a config when the key of the request is zero, and otherwise updates the one
with its key. The suggestion is returned in any case; it is stored when it applies. -/
def setConfig (request : Config) : Act (Config × Bool) := do
  let bay ← get
  let current ← bay.requestedConfig request
  let portId := (current.getD request).portId
  require (portId ≠ 0) .portUnspecified
  let port ← present (Table.find? bay.graph.ports portId) (.portMissing portId)
  let suggestion ← port.suggest request current
  if suggestion.applies current.isSome then
    if current.isSome then
      storeConfig suggestion.config
      return (suggestion.config, true)
    else
      let config ← createConfig suggestion.config
      return (config, true)
  else
    return (suggestion.config, false)

/-- Takes a config back to its initial state, or removes it if it has none. A config that
has a stream or a patch cannot be reset. -/
def resetConfig (config : Key) : Act Unit := do
  let bay ← get
  require (Table.holds bay.graph.configs config) (.configNotFound config)
  require (!bay.hasStream config) (.configHasOpenStream config)
  if let some patch := bay.ledger.using? config then
    throw (.configPatched config patch)
  match Table.find? bay.graph.initialConfigs config with
  | some initial => storeConfig initial
  | none =>
    set { bay with graph := { bay.graph with
      configs := Table.remove bay.graph.configs config } }

/-- Creates or updates a patch. -/
def setPatch (request : Patch) : Act Patch := do
  let bay ← get
  (Ledger.set request bay.graph.configs bay.graph.routes bay.limits).within (·.ledger)
    fun bay ledger => { bay with ledger }

/-- Removes a patch. -/
def resetPatch (patch : Key) : Act Unit := do
  let bay ← get
  let ledger ← bay.ledger.reset patch
  set { bay with ledger }

/-- Connects an external device. -/
def connect (template : Port) : Act Port := do
  let bay ← get
  let (port, graph) ← bay.graph.connect template bay.debug.simulateConnections bay.query
  set { bay with graph }
  return port

/-- Disconnects an external device. -/
def disconnect (port : Key) : Act Unit := do
  let bay ← get
  let graph ← bay.graph.disconnect port
  set { bay with graph }

/-- The config on which a stream is to be opened and its port, if they admit another
stream. -/
def streamPlace (bay : Bay) (config : Key) : Except Fault (Config × Port) := do
  let entry ← present (Table.find? bay.graph.configs config) (.noSuchConfig config)
  let port ← present (Table.find? bay.graph.ports entry.portId)
    (.portOfConfigMissing entry.portId config)
  bay.streams.requireRoom entry port
  return (entry, port)

/-- Notes that `stream` is open on a config of `port`. -/
def addStream (port : Key) (stream : Stream) : Act Unit :=
  modify fun bay => { bay with streams := bay.streams.insert stream.config { port, stream } }

/-- Opens an input stream. -/
def openInput (config : Key) (frames : Int64) (metadata : Metadata) :
    Act (Buffer × Stream) := do
  let bay ← get
  let (entry, port) ← bay.streamPlace config
  require (port.flags.direction = .input) (.notInputPort config)
  let buffer ← Buffer.sized entry frames bay.limits
  let stream := .input config metadata
  addStream port.id stream
  return (buffer, stream)

/-- Opens an output stream. A port for compressed data takes no stream without offload
parameters. -/
def openOutput (config : Key) (frames : Int64) (metadata : Metadata)
    (offload : Option OffloadInfo) : Act (Buffer × Stream) := do
  let bay ← get
  let (entry, port) ← bay.streamPlace config
  require (port.flags.direction = .output) (.notOutputPort config)
  require (port.flags.has .compressOffload → offload.isSome) (.offloadInfoMissing port.id)
  let buffer ← Buffer.sized entry frames bay.limits
  let stream := .output config metadata offload
  addStream port.id stream
  return (buffer, stream)

/-- Closes the stream on a config. -/
def closeStream (config : Key) : Act Unit := do
  let bay ← get
  require (bay.hasStream config) (.noStream config)
  set { bay with streams := bay.streams.erase config }

/-- Sets the switches. Simulation stays as it is while external devices are connected. -/
def setDebug (flags : DebugFlags) : Act Unit := do
  let bay ← get
  require (bay.debug.changesSimulation flags → bay.graph.connected.isEmpty) .simulationFixed
  set { bay with debug := flags }

end Bay

/-- The action that a request stands for. -/
def Request.act : Request → Act Answer
  | .setConfig config => do
    let (suggested, applied) ← Bay.setConfig config
    return .config suggested applied
  | .resetConfig config => do Bay.resetConfig config; return .done
  | .setPatch patch => return .patch (← Bay.setPatch patch)
  | .resetPatch patch => do Bay.resetPatch patch; return .done
  | .connect template => return .port (← Bay.connect template)
  | .disconnect port => do Bay.disconnect port; return .done
  | .openInput config frames metadata => do
    let (buffer, stream) ← Bay.openInput config frames metadata
    return .stream buffer stream
  | .openOutput config frames metadata offload => do
    let (buffer, stream) ← Bay.openOutput config frames metadata offload
    return .stream buffer stream
  | .closeStream config => do Bay.closeStream config; return .done
  | .setDebug flags => do Bay.setDebug flags; return .done

namespace Bay

/-- Carries out a request: the answer or fault, and the state afterwards. -/
def step (bay : Bay) (request : Request) : Except Fault Answer × Bay :=
  request.act.run bay

/-- Carries out requests one after the other. -/
def run (bay : Bay) : List Request → List (Except Fault Answer) × Bay
  | [] => ([], bay)
  | request :: rest =>
    let (answer, bay) := bay.step request
    let (answers, bay) := bay.run rest
    (answer :: answers, bay)

end Bay

end Patchbay
