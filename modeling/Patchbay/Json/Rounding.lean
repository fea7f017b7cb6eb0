import Patchbay.Json.Numeral
import Patchbay.Single

/-!
# Numerals as binary numbers

A numeral is rounded to a binary number in steps: its leading digits, as many as fit in
64 bits, are turned into a binary number of 64 bits, which is then scaled by the power of
ten that is left over. A numeral whose number would be infinite has no value.
-/

namespace Patchbay.Json

/-- The number that `digits` extend `significand` to, as long as it fits in 64 bits, with
the digits that are left. -/
def absorb (significand : Nat) : List Nat → Nat × List Nat
  | [] => (significand, [])
  | digit :: rest =>
    if 10 * significand + digit ≤ 0xffffffffffffffff then absorb (10 * significand + digit) rest
    else (significand, digit :: rest)

/-- A power of ten, rounded to 64 bits. -/
def powerOfTen (n : Nat) : Float :=
  Float.ofScientific 1 false n

/-- Divides by a power of ten, at most 308 powers at a time. -/
def scaleDown (x : Float) (n : Nat) : Float :=
  if n ≤ 308 then x / powerOfTen n
  else if x == 0 then x
  else scaleDown (x / powerOfTen 308) (n - 308)
termination_by n

/-- Multiplies by a power of ten, unless that leads beyond the finite numbers. -/
def scaleUp (x : Float) (n : Nat) : Option Float :=
  if n ≤ 308 then
    let product := x * powerOfTen n
    if product.isInf then none else some product
  else if x == 0 then some x
  else none

namespace Numeral

/-- The number of 64 bits that a numeral stands for. -/
def toFloat? (numeral : Numeral) : Option Float := do
  let whole := (Nat.toDigits 10 numeral.whole).map digitValue
  let (significand, dropped) := absorb 0 whole
  let (significand, ignored) := absorb significand (numeral.fraction.map (·.val))
  let exponent : Int :=
    dropped.length - (numeral.fraction.length - ignored.length) + numeral.exponent.getD 0
  let x := significand.toUInt64.toFloat
  let x ←
    if 0 ≤ exponent then scaleUp x exponent.toNat
    else some (scaleDown x exponent.natAbs)
  return if numeral.negative then -x else x

/-- The integer that a numeral is written like, if it fits in a word of 64 bits with or
without a sign. -/
def word? (numeral : Numeral) : Option Int :=
  numeral.int?.filter fun n => -0x8000000000000000 ≤ n ∧ n ≤ 0xffffffffffffffff

/-- Whether a numeral stands for a finite number. Every word does. -/
def isFinite (numeral : Numeral) : Bool :=
  numeral.word?.isSome || numeral.toFloat?.isSome

/-- The number of 32 bits that a numeral stands for. A word is rounded once, any other
numeral by way of 64 bits. -/
def toSingle? (numeral : Numeral) : Option Single :=
  match numeral.word? with
  | some n =>
    if n < 0 then some ⟨(Int64.ofInt n).toFloat32.toBits⟩
    else some ⟨n.toNat.toUInt64.toFloat32.toBits⟩
  | none => numeral.toFloat?.map fun x => ⟨x.toFloat32.toBits⟩

end Numeral

end Patchbay.Json
