import Patchbay.Bay
import Patchbay.Json.Decode
import Patchbay.Stream.Buffer
import Patchbay.Wire.Port

/-!
# Forms of streams and switches

Stream parameters, buffers and debug switches as JSON. The gain of a track is read from
any number and rounded to a binary number of 32 bits, so tracks can be read only.
-/

namespace Patchbay

open Json

instance : HasSchema OffloadInfo where
  schema := .via
    (.record <|
      .required (α := Format) "format" <|
      .required (α := Layout) "channel_mask" <|
      .required (α := UInt32) "sample_rate" <|
      .required (α := UInt32) "bit_rate_kbps" <|
      .required (α := Int64) "duration_us" <|
      .required (α := Bool) "is_streaming" .none)
    (fun (format, layout, sampleRate, bitRateKbps, durationUs, isStreaming, ()) =>
      { format, layout, sampleRate, bitRateKbps, durationUs, isStreaming })
    (fun info =>
      (info.format, info.layout, info.sampleRate, info.bitRateKbps, info.durationUs,
        info.isStreaming, ()))

instance : HasSchema Buffer where
  schema := .via
    (.record <|
      .required (α := UInt64) "frame_size_bytes" <|
      .required (α := Int64) "buffer_size_frames" .none)
    (fun (frameBytes, frames, ()) => { frameBytes, frames })
    (fun buffer => (buffer.frameBytes, buffer.frames, ()))

instance : HasSchema DebugFlags where
  schema := .via
    (.record (.defaulted "simulate_device_connections" false .none))
    (fun (simulateConnections, ()) => { simulateConnections })
    (fun flags => (flags.simulateConnections, ()))

/-- The form of the tracks of a stream, with gains as they are written. -/
def tracksSchema : Schema (List (String × String × Numeral × Unit) × Unit) :=
  .record (.field "tracks"
    (.list (.record <|
      .required "usage" <|
      .required "content_type" <|
      .required "gain" .none)) none .none)

/-- The track with a gain as it is written. -/
def Track.ofWritten? : String × String × Numeral × Unit → Option Track
  | (usage, contentType, numeral, ()) => do
    return { usage, contentType, gain := ← numeral.toSingle? }

/-- Reads what a client says about tracks. -/
def Metadata.decode? (value : Value) : Option Metadata := do
  let (tracks, ()) ← tracksSchema.decode .alone value
  return { tracks := ← tracks.mapM Track.ofWritten? }

end Patchbay
