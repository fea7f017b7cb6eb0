/-!
# Limits

Constants that size the buffers of streams and describe patches.
-/

namespace Patchbay

/-- Sizes and latencies that hold for a whole bay. -/
structure Limits where
  minBufferFrames : Int32
  maxBufferBytes : UInt64
  /-- The latency of every sink of a patch. -/
  latencyMs : Int32
  deriving DecidableEq, Repr

/-- The limits of a topology that states none. -/
def Limits.standard : Limits :=
  { minBufferFrames := 16, maxBufferBytes := 1048576, latencyMs := 10 }

end Patchbay
