import Patchbay.Device.Text
import Patchbay.Format
import Patchbay.Key

/-!
# Faults

The causes for which a request is refused. A fault is either the fault of the request
alone or a conflict with what the bay holds at the time; every fault has a text that
says what was wrong.
-/

namespace Patchbay

/-- The two classes of faults. -/
inductive FaultKind
  /-- The request is malformed or cannot be satisfied. -/
  | invalidArgument
  /-- The request conflicts with the current state. -/
  | illegalState
  deriving DecidableEq, Repr

/-- What introduces the text of a fault of a class. -/
def FaultKind.label : FaultKind → String
  | .invalidArgument => "Invalid argument"
  | .illegalState => "Illegal state"

/-- The causes for which a request is refused. -/
inductive Fault
  | portNotFound (port : Key)
  | noPortKeysLeft (last : Key)
  -- defaults and suggestions
  | noProfiles (port : Key)
  | noLayouts (port : Key)
  | noSampleRates (port : Key)
  | formatUnsupported (port : Key) (format : Option Format)
  -- port configs
  | noSuchConfig (config : Key)
  | portUnspecified
  | portMissing (port : Key)
  | configNotFound (config : Key)
  | configHasOpenStream (config : Key)
  | configPatched (config patch : Key)
  -- patches
  | sourcesEmpty
  | sourcesRepeated (sources : List Key)
  | sinksEmpty
  | sinksRepeated (sinks : List Key)
  | sourcesNotFound (missing : List Key)
  | sinksNotFound (missing : List Key)
  | noRoute (sink : Key)
  | noSuchPatch (patch : Key)
  | sinkExclusive (sink : Key)
  | noPatchKeysLeft (last : Key)
  | patchKeyNotPositive (patch : Key)
  | patchKeyInUse (patch : Key)
  | patchNotFound (patch : Key)
  -- external devices
  | notDevicePort (port : Key)
  | profilesNotDynamic (port : Key)
  | permanentlyAttached (port : Key)
  | carriesMixData (port : Key)
  | alreadyConnected (device : Device) (port : Key)
  | queryFailed (query : String)
  | notConnected (port : Key)
  | portCustomized (port config : Key)
  | simulationFixed
  -- streams
  | portOfConfigMissing (port config : Key)
  | streamAlreadyOpen (config : Key)
  | notMixPort (config : Key)
  | streamCapReached (port : Key) (cap : UInt32)
  | notInputPort (config : Key)
  | notOutputPort (config : Key)
  | offloadInfoMissing (port : Key)
  | noStream (config : Key)
  -- buffers
  | bufferNotPositive (frames : Int64)
  | bufferTooSmall (frames : Int64) (least : Int32)
  | frameSizeUnknown (config : Key)
  | bufferTooLarge (frames : Int64) (most : UInt64)
  deriving DecidableEq, Repr

namespace Fault

/-- The class of a fault. -/
def kind : Fault → FaultKind
  | .noPortKeysLeft _ => .illegalState
  | .configHasOpenStream _ => .illegalState
  | .configPatched _ _ => .illegalState
  | .sinkExclusive _ => .illegalState
  | .noPatchKeysLeft _ => .illegalState
  | .alreadyConnected _ _ => .illegalState
  | .queryFailed _ => .illegalState
  | .portCustomized _ _ => .illegalState
  | .simulationFixed => .illegalState
  | .streamAlreadyOpen _ => .illegalState
  | .streamCapReached _ _ => .illegalState
  | _ => .invalidArgument

/-- A list of keys in a message. -/
def keysText (keys : List Key) : String :=
  Text.listing (keys.map Key.text)

/-- What was wrong, without the class of the fault. -/
def detail : Fault → String
  | .portNotFound port => s!"port id {port.text} not found"
  | .noPortKeysLeft last => s!"no port ids left after {last.text}"
  | .noProfiles port => s!"port {port.text} has no profiles"
  | .noLayouts port => s!"the first profile in port {port.text} has no channel masks"
  | .noSampleRates port => s!"the first profile in port {port.text} has no sample rates"
  | .formatUnsupported port format =>
    s!"port {port.text} does not support format " ++ (format.map Format.text).getD "<unset>" ++
      " anymore"
  | .noSuchConfig config => s!"existing port config id {config.text} not found"
  | .portUnspecified => "input port config does not specify portId"
  | .portMissing port => s!"input port config points to non-existent portId {port.text}"
  | .configNotFound config => s!"port config id {config.text} not found"
  | .configHasOpenStream config => s!"port config id {config.text} has a stream opened on it"
  | .configPatched config patch =>
    s!"port config id {config.text} is used by the patch with id {patch.text}"
  | .sourcesEmpty => "requested patch has empty sources list"
  | .sourcesRepeated sources =>
    "requested patch has duplicate ids in the sources list: " ++ keysText sources
  | .sinksEmpty => "requested patch has empty sinks list"
  | .sinksRepeated sinks =>
    "requested patch has duplicate ids in the sinks list: " ++ keysText sinks
  | .sourcesNotFound missing =>
    "following source port config ids not found: " ++ keysText missing
  | .sinksNotFound missing => "following sink port config ids not found: " ++ keysText missing
  | .noRoute sink => s!"there is no route to the sink port id {sink.text}"
  | .noSuchPatch patch => s!"not found existing patch id {patch.text}"
  | .sinkExclusive sink =>
    s!"sink port id {sink.text} is exclusive and is already used by some other patch"
  | .noPatchKeysLeft last => s!"no patch ids left after {last.text}"
  | .patchKeyNotPositive patch => s!"patch id {patch.text} is not positive"
  | .patchKeyInUse patch => s!"patch id {patch.text} is already in use"
  | .patchNotFound patch => s!"patch id {patch.text} not found"
  | .notDevicePort port => s!"port id {port.text} is not a device port"
  | .profilesNotDynamic port => s!"port id {port.text} does not have dynamic profiles"
  | .permanentlyAttached port => s!"port id {port.text} is permanently attached"
  | .carriesMixData port => s!"connection request for port id {port.text} carries mix port data"
  | .alreadyConnected device port =>
    s!"device {device.text} is already connected at the device port id {port.text}"
  | .queryFailed query => s!"failed to query supported device profiles via {query}"
  | .notConnected port => s!"port id {port.text} is not a connected device port"
  | .portCustomized port config =>
    s!"port id {port.text} has a non-default config with id {config.text}"
  | .simulationFixed =>
    "attempting to change device connections simulation while having external devices connected"
  | .portOfConfigMissing port config =>
    s!"port id {port.text} used by port config id {config.text} not found"
  | .streamAlreadyOpen config =>
    s!"port config id {config.text} already has a stream opened on it"
  | .notMixPort config => s!"port config id {config.text} does not correspond to a mix port"
  | .streamCapReached port cap =>
    s!"port id {port.text} has already reached maximum allowed opened stream count: " ++
      toString cap.toNat
  | .notInputPort config =>
    s!"port config id {config.text} does not correspond to an input mix port"
  | .notOutputPort config =>
    s!"port config id {config.text} does not correspond to an output mix port"
  | .offloadInfoMissing port =>
    s!"port id {port.text} has COMPRESS_OFFLOAD flag set, requires offload info"
  | .noStream config => s!"port config id {config.text} has no stream opened on it"
  | .bufferNotPositive frames => s!"non-positive buffer size {frames.toInt}"
  | .bufferTooSmall frames least =>
    s!"insufficient buffer size {frames.toInt}, must be at least {least.toInt}"
  | .frameSizeUnknown config => s!"could not calculate frame size for port config {config.text}"
  | .bufferTooLarge frames most =>
    s!"buffer size {frames.toInt} frames is too large, maximum size is {most.toNat}"

/-- The full text of a fault. -/
def message (fault : Fault) : String :=
  fault.kind.label ++ ": " ++ fault.detail

end Fault

/-- Goes on when `holds`, and is refused with `fault` otherwise. -/
def require (holds : Prop) [Decidable holds] (fault : Fault) : Except Fault Unit :=
  if holds then .ok () else .error fault

/-- Goes on with the value of an option, and is refused with `fault` when there is none. -/
def present {α : Type} (value : Option α) (fault : Fault) : Except Fault α :=
  match value with
  | some value => .ok value
  | none => .error fault

end Patchbay
