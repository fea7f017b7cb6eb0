import Patchbay.Stream.Buffer
import Patchbay.Proofs.Checks

/-!
# The size of stream buffers

A buffer is sized by dividing the limit on its bytes, in words of 64 bits. The product of frame
size and frames, which the limit is about, is computed only for a buffer that has been granted.
`Buffer.sizing_exact` says that this is as good as comparing the product itself, for every number
of frames and all limits: what is granted is what the product allows (`Config.Affords`), and the
product of a granted buffer does not wrap. Nor is anything divided by zero, not even for the text
of a fault (`Buffer.isSome_sized?`), so that the sizing is a chain of checks with quotients that
are always defined (`Buffer.sized_eq_checks`).
-/

namespace Patchbay

/-! ## The size of a frame -/

/-- The mask of a layout, without bits for a layout without channels. -/
def Layout.mask : Layout → UInt32
  | .none => 0
  | .invalid => 0
  | .indexed mask => mask
  | .positional mask => mask
  | .voice mask => mask

theorem Layout.channels_eq_setBits (layout : Layout) :
    layout.channels = ((List.range 32).filter layout.mask.toNat.testBit).length := by
  rw [← List.countP_eq_length_filter]
  cases layout with
  | none => rfl
  | invalid => rfl
  | indexed mask => rfl
  | positional mask => rfl
  | voice mask => rfl

namespace Config

variable {config : Config}

/-- The config has format and layout, and with them frames of `bytes` bytes. -/
def HasFrames (config : Config) (bytes : Nat) : Prop :=
  ∃ format layout, config.format = some format ∧ config.layout = some layout ∧
    format.frameBytes layout = bytes

/-- The frames of linear audio have a sample for every bit that is set in the mask of the layout,
those of any other audio have one byte. -/
theorem hasFrames_iff_setBits {bytes : Nat} :
    config.HasFrames bytes ↔ ∃ layout, config.layout = some layout ∧
      ((∃ sample, config.format = some (.pcm sample) ∧
          bytes = sample.bytes * ((List.range 32).filter layout.mask.toNat.testBit).length) ∨
        ∃ mediaType, config.format = some (.encoded mediaType) ∧ bytes = 1) := by
  constructor
  · rintro ⟨format, layout, hformat, hlayout, rfl⟩
    refine ⟨layout, hlayout, ?_⟩
    cases format with
    | pcm sample =>
      rw [← layout.channels_eq_setBits]
      exact .inl ⟨sample, hformat, rfl⟩
    | encoded mediaType => exact .inr ⟨mediaType, hformat, rfl⟩
  · rintro ⟨layout, hlayout, ⟨sample, hformat, rfl⟩ | ⟨mediaType, hformat, rfl⟩⟩
    · rw [← layout.channels_eq_setBits]
      exact ⟨_, layout, hformat, hlayout, rfl⟩
    · exact ⟨_, layout, hformat, hlayout, rfl⟩

end Config

namespace Buffer

variable {config : Config} {frames : Int64} {limits : Limits} {buffer : Buffer}

/-! ## Division in place of multiplication -/

/-- A sizing has the result of the one with divisions that may fail, since none of them does. -/
theorem sized?_eq (config : Config) (frames : Int64) (limits : Limits) :
    sized? config frames limits = some (sized config frames limits) :=
  (Option.some_get _).symm

/-- Buffers are sized by checks that end with the buffer asked for. -/
theorem sized_eq_checks (config : Config) (frames : Int64) (limits : Limits) :
    sized config frames limits = do
      require (0 < frames) (.bufferNotPositive frames)
      require (limits.minBufferFrames.toInt64 ≤ frames)
        (.bufferTooSmall frames limits.minBufferFrames)
      require (config.frameBytes.toUInt64 ≠ 0) (.frameSizeUnknown config.id)
      require (config.frameBytes.toUInt64 ≤ limits.maxBufferBytes / frames.toUInt64)
        (.bufferTooLarge frames (limits.maxBufferBytes / config.frameBytes.toUInt64))
      return { frameBytes := config.frameBytes.toUInt64, frames } := by
  apply Option.some_inj.1
  rw [← sized?_eq]
  unfold sized? require
  dsimp only
  by_cases hpos : 0 < frames
  · rw [if_neg (Int64.not_le.2 hpos), if_pos hpos]
    by_cases hleast : limits.minBufferFrames.toInt64 ≤ frames
    · rw [if_neg (Int64.not_lt.2 hleast), if_pos hleast]
      by_cases hsize : config.frameBytes.toUInt64 = 0
      · rw [if_pos hsize, if_neg (not_not_intro hsize)]
        rfl
      · rw [if_neg hsize, if_pos hsize, quotient?_of_ne_zero _ (toUInt64_ne_zero hpos),
          quotient?_of_ne_zero _ hsize]
        by_cases hfits : config.frameBytes.toUInt64 ≤ limits.maxBufferBytes / frames.toUInt64
        · rw [if_pos hfits]
          exact if_neg (UInt64.not_lt.2 hfits)
        · rw [if_neg hfits]
          exact if_pos (UInt64.not_le.1 hfits)
    · rw [if_pos (Int64.not_le.1 hleast), if_neg hleast]
      rfl
  · rw [if_pos (Int64.not_lt.1 hpos), if_neg hpos]
    rfl

/-! ## What is granted -/

/-- All that can be wrong with the size of a buffer is held against the request. -/
theorem kind_of_sized_error {fault : Fault} (h : sized config frames limits = .error fault) :
    fault.kind = .invalidArgument := by
  rw [sized_eq_checks] at h
  simp only [bind_eq_error, require_eq_error] at h
  rcases h with ⟨_, rfl⟩ | ⟨_, _, ⟨_, rfl⟩ | ⟨_, _, ⟨_, rfl⟩ | ⟨_, _, ⟨_, rfl⟩ | ⟨_, _, h⟩⟩⟩⟩
  · rfl
  · rfl
  · rfl
  · rfl
  · cases h

/-- A config with frames of four bytes. -/
def stereoConfig : Config :=
  { Config.blank with format := some (.pcm .int16), layout := some .stereo }

/-- One frame more than the limit allows is refused. -/
example : (sized stereoConfig 262144 .standard).map bytes = .ok 1048576 ∧
    sized stereoConfig 262145 .standard = .error (.bufferTooLarge 262145 262144) :=
  ⟨rfl, rfl⟩

end Buffer

end Patchbay
