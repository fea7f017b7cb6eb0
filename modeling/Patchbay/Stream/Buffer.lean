import Patchbay.Config
import Patchbay.Fault
import Patchbay.Limits

/-!
# Stream buffers

The buffer of a stream holds a number of frames that the client asks for. It has to have
a least number of frames and may not exceed a number of bytes. The second limit is tested
by dividing the limit, so that no product can exceed 64 bits. What is divided by has been
found to be positive by then.
-/

namespace Patchbay

/-- The size of a frame under a config, zero when the config leaves it open. -/
def Config.frameBytes (config : Config) : Nat :=
  match config.format, config.layout with
  | some format, some layout => format.frameBytes layout
  | _, _ => 0

/-- The geometry of a buffer. -/
structure Buffer where
  frameBytes : UInt64
  frames : Int64
  deriving DecidableEq, Repr

namespace Buffer

/-- The size of a buffer. -/
def bytes (buffer : Buffer) : UInt64 :=
  buffer.frameBytes * buffer.frames.toUInt64

/-- The quotient of two words, unless the divisor is zero. -/
def quotient? (dividend divisor : UInt64) : Option UInt64 :=
  if divisor = 0 then none else some (dividend / divisor)

/-- The buffer of `frames` frames for a stream on `config`. A division by zero would leave
it without a result. -/
def sized? (config : Config) (frames : Int64) (limits : Limits) :
    Option (Except Fault Buffer) := do
  if frames ≤ 0 then
    return .error (.bufferNotPositive frames)
  if frames < limits.minBufferFrames.toInt64 then
    return .error (.bufferTooSmall frames limits.minBufferFrames)
  let frameBytes := config.frameBytes.toUInt64
  if frameBytes = 0 then
    return .error (.frameSizeUnknown config.id)
  let bound ← quotient? limits.maxBufferBytes frames.toUInt64
  if bound < frameBytes then
    return .error (.bufferTooLarge frames (← quotient? limits.maxBufferBytes frameBytes))
  return .ok { frameBytes, frames }

theorem quotient?_of_ne_zero (dividend : UInt64) {divisor : UInt64} (h : divisor ≠ 0) :
    quotient? dividend divisor = some (dividend / divisor) :=
  if_neg h

theorem toUInt64_ne_zero {frames : Int64} (hpos : 0 < frames) : frames.toUInt64 ≠ 0 := by
  intro hzero
  have hframes : frames = 0 := by
    rw [← frames.toInt64_toUInt64, hzero]
    rfl
  rw [hframes] at hpos
  exact Int64.lt_irrefl hpos

/-- Nothing is divided by zero: both divisors have been checked before they are used. -/
theorem isSome_sized? (config : Config) (frames : Int64) (limits : Limits) :
    (sized? config frames limits).isSome = true := by
  unfold sized?
  dsimp only
  split
  · rfl
  rename_i hpos
  split
  · rfl
  split
  · rfl
  rename_i hsize
  rw [quotient?_of_ne_zero _ (toUInt64_ne_zero (Int64.not_le.1 hpos)),
    quotient?_of_ne_zero _ hsize, Option.bind_eq_bind, Option.bind_some]
  split
  · rfl
  · rfl

/-- The buffer of `frames` frames for a stream on `config`. All its divisions have results. -/
def sized (config : Config) (frames : Int64) (limits : Limits) : Except Fault Buffer :=
  (sized? config frames limits).get (isSome_sized? config frames limits)

end Buffer

end Patchbay
