/-!
# Numerals

The numbers of a text as they are written: a sign, a whole part, the digits after the
point and an exponent. Nothing is rounded, so what a numeral means is left to its reader.
-/

namespace Patchbay.Json

/-- A number as it is written. -/
structure Numeral where
  negative : Bool
  whole : Nat
  /-- The digits after the point; there is no point when there are none. -/
  fraction : List (Fin 10)
  exponent : Option Int
  deriving DecidableEq, Repr

/-- The value of a decimal digit. -/
def digitValue (c : Char) : Nat :=
  c.toNat - '0'.toNat

/-- The number that decimal digits stand for. -/
def decimalValue (digits : List Char) : Nat :=
  digits.foldl (fun value c => 10 * value + digitValue c) 0

/-- Splits off a leading sign character. -/
def splitSign (sign : Char) : List Char → Bool × List Char
  | [] => (false, [])
  | c :: rest => if c = sign then (true, rest) else (false, c :: rest)

namespace Numeral

/-- The numeral of an integer. -/
def ofInt (n : Int) : Numeral :=
  { negative := n < 0, whole := n.natAbs, fraction := [], exponent := none }

/-- The integer that a numeral stands for, if it is written like one. A zero with a sign
is not. -/
def int? (numeral : Numeral) : Option Int :=
  if numeral.fraction = [] ∧ numeral.exponent = none then
    if numeral.negative then
      if numeral.whole = 0 then none else some (-numeral.whole)
    else some numeral.whole
  else none

/-- The digits before the point: a number without a leading zero. -/
def readWhole (digits : List Char) : Option Nat :=
  match digits with
  | [] => none
  | ['0'] => some 0
  | '0' :: _ :: _ => none
  | digits => some (decimalValue digits)

/-- The digits after the point and what follows them. -/
def readFraction : List Char → Option (List (Fin 10) × List Char)
  | '.' :: rest =>
    match rest.takeWhile Char.isDigit with
    | [] => none
    | digits =>
      some (digits.map fun c => Fin.ofNat 10 (digitValue c), rest.dropWhile Char.isDigit)
  | rest => some ([], rest)

/-- The digits of an exponent after its sign. -/
def readExponentDigits (digits : List Char) : Option Nat :=
  if digits.isEmpty || !digits.all Char.isDigit then none else some (decimalValue digits)

/-- The exponent, which has to end the numeral. -/
def readExponent : List Char → Option (Option Int)
  | [] => some none
  | c :: rest =>
    if c = 'e' ∨ c = 'E' then
      match splitSign '-' rest with
      | (true, digits) => (readExponentDigits digits).map fun n => some (-(n : Int))
      | (false, rest) => (readExponentDigits (splitSign '+' rest).2).map fun n => some (n : Int)
    else none

/-- Reads a numeral. -/
def read (chars : List Char) : Option Numeral := do
  let (negative, rest) := splitSign '-' chars
  let whole ← readWhole (rest.takeWhile Char.isDigit)
  let (fraction, rest) ← readFraction (rest.dropWhile Char.isDigit)
  let exponent ← readExponent rest
  return { negative, whole, fraction, exponent }

/-- The characters of a numeral. -/
def text (numeral : Numeral) : List Char :=
  (if numeral.negative then ['-'] else []) ++
  Nat.toDigits 10 numeral.whole ++
  (if numeral.fraction.isEmpty then []
    else '.' :: numeral.fraction.map fun digit => Nat.digitChar digit.val) ++
  (match numeral.exponent with
    | none => []
    | some exponent =>
      'e' :: (if exponent < 0 then ['-'] else []) ++ Nat.toDigits 10 exponent.natAbs)

end Numeral

end Patchbay.Json
