import Patchbay.Format
import Patchbay.Key
import Patchbay.Single

/-!
# Streams

A stream carries audio data into or out of a mix port, through a config of the port. At
most one stream is open on a config at a time.
-/

namespace Patchbay

/-- What a client says about one of the tracks of a stream. -/
structure Track where
  usage : String
  contentType : String
  gain : Single
  deriving DecidableEq, Repr

/-- What a client says about the tracks of a stream. -/
structure Metadata where
  tracks : List Track
  deriving DecidableEq, Repr

/-- The parameters of a compressed stream. -/
structure OffloadInfo where
  format : Format
  layout : Layout
  sampleRate : UInt32
  bitRateKbps : UInt32
  durationUs : Int64
  isStreaming : Bool
  deriving DecidableEq, Repr

/-- An open stream with what its client gave. -/
inductive Stream
  | input (config : Key) (metadata : Metadata)
  | output (config : Key) (metadata : Metadata) (offload : Option OffloadInfo)
  deriving DecidableEq, Repr

namespace Stream

/-- The config on which the stream is open. -/
def config : Stream → Key
  | .input config _ => config
  | .output config _ _ => config

/-- What the client said about the tracks. -/
def metadata : Stream → Metadata
  | .input _ metadata => metadata
  | .output _ metadata _ => metadata

end Stream

end Patchbay
