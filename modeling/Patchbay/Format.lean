/-!
# Audio formats and channel layouts

A format says how audio data is encoded, a layout which channels it has. Together they
fix the size of a frame, one sample for every channel.
-/

namespace Patchbay

/-- The encoding of one sample of linear audio. -/
inductive Sample
  | uint8
  | int16
  | int32
  | fixedQ8_24
  | float32
  /-- Three bytes, packed. -/
  | int24
  deriving DecidableEq, Repr

namespace Sample

/-- All encodings, in the order in which they are declared. -/
def all : List Sample :=
  [.uint8, .int16, .int32, .fixedQ8_24, .float32, .int24]

/-- The name an encoding goes by in files and messages. -/
def name : Sample → String
  | .uint8 => "UInt8"
  | .int16 => "Int16"
  | .int32 => "Int32"
  | .fixedQ8_24 => "FixedQ8_24"
  | .float32 => "Float32"
  | .int24 => "Int24"

/-- The number of bytes of a sample. -/
def bytes : Sample → Nat
  | .uint8 => 1
  | .int16 => 2
  | .int32 => 4
  | .fixedQ8_24 => 4
  | .float32 => 4
  | .int24 => 3

end Sample

/-- How audio data is encoded. -/
inductive Format
  /-- Linear samples. -/
  | pcm (sample : Sample)
  /-- Compressed or otherwise opaque data, identified by its media type. -/
  | encoded (mediaType : String)
  deriving DecidableEq, Repr

/-- The text of a format in messages. -/
def Format.text : Format → String
  | .pcm sample => "PCM " ++ sample.name
  | .encoded mediaType => mediaType

/-- Which channels audio data has. In a mask, every bit that is set is a channel. -/
inductive Layout
  | none
  | invalid
  /-- Channels with a number and no position. -/
  | indexed (mask : UInt32)
  /-- Channels with a position, such as front left. -/
  | positional (mask : UInt32)
  | voice (mask : UInt32)
  deriving DecidableEq, Repr

/-- The number of bits set in `word`. -/
def setBits (word : UInt32) : Nat :=
  (List.range 32).countP word.toNat.testBit

namespace Layout

/-- The front left channel alone. -/
def mono : Layout := .positional 1

/-- The front left and front right channels. -/
def stereo : Layout := .positional 3

/-- The number of channels. -/
def channels : Layout → Nat
  | .none => 0
  | .invalid => 0
  | .indexed mask => setBits mask
  | .positional mask => setBits mask
  | .voice mask => setBits mask

end Layout

/-- The number of bytes of a frame: a sample for every channel of linear audio, and one
byte for any other format. It is zero when linear audio has no channels, and then no
buffer can be sized. -/
def Format.frameBytes : Format → Layout → Nat
  | .pcm sample, layout => sample.bytes * layout.channels
  | .encoded _, _ => 1

end Patchbay
