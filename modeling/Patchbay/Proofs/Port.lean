import Mathlib.Data.Nat.Bitwise
import Patchbay.Port

/-!
# Flags and profiles of ports

What the definitions on ports say, with bits and positions spelled out: a port has an output flag
when its data goes out and the bit of the flag is set (`Flags.has_iff`), and its profile for a
format is the first one with that format (`Port.profile?_eq_some_iff`).
-/

namespace Patchbay

/-! ## Flags -/

/-- Every flag has a bit of its own, in the order in which the flags are listed. -/
theorem OutputFlag.toNat_bit (flag : OutputFlag) :
    flag.bit.toNat = 2 ^ OutputFlag.all.idxOf flag := by
  cases flag <;> rfl

/-- Flags of an input have no output flag, whatever their bits. -/
theorem Flags.has_iff {flags : Flags} {flag : OutputFlag} :
    flags.has flag = true ↔
      flags.direction = .output ∧
        flags.bits.toNat.testBit (OutputFlag.all.idxOf flag) = true := by
  unfold Flags.has
  rw [Bool.and_eq_true, decide_eq_true_eq, bne_iff_ne, ne_eq, ← UInt32.toNat_inj,
    UInt32.toNat_and, flag.toNat_bit, Nat.and_two_pow]
  cases flags.bits.toNat.testBit (OutputFlag.all.idxOf flag) with
  | true => simp
  | false => simp

/-- The bits 0, 4 and 5 are set. -/
example : OutputFlag.all.filter (Flags.has ⟨.output, 49⟩) =
    [.direct, .compressOffload, .nonBlocking] := rfl

/-! ## Profiles -/

namespace Port

variable {port : Port} {format : Format} {profile : Profile}

theorem profile?_eq_some_iff :
    port.profile? format = some profile ↔
      profile.format = format ∧ ∃ earlier later, port.profiles = earlier ++ profile :: later ∧
        ∀ other ∈ earlier, other.format ≠ format := by
  unfold profile?
  rw [List.find?_eq_some_iff_append]
  simp

theorem profile?_eq_none_iff :
    port.profile? format = none ↔ ∀ profile ∈ port.profiles, profile.format ≠ format := by
  unfold profile?
  rw [List.find?_eq_none]
  simp

theorem isSome_profile?_iff :
    (port.profile? format).isSome = true ↔ ∃ profile ∈ port.profiles, profile.format = format := by
  rw [← Option.ne_none_iff_isSome, ne_eq, profile?_eq_none_iff]
  simp

end Port

end Patchbay
