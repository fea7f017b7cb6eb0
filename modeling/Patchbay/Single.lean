/-!
# Single-precision numbers

Numbers of 32 bits in the binary format of IEEE 754, held as their bits, so that equal
means having the same bits.
-/

namespace Patchbay

/-- A binary number of 32 bits. -/
structure Single where
  bits : UInt32
  deriving DecidableEq, Repr

end Patchbay
