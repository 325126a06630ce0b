/-! # Decimal fractions and their nearest binary values

A number with a fraction or an exponent stands for the nearest binary value of
double precision. `Decimal.integral?` tells which integer that value is, if it
is one. -/

namespace PatchSurvey

/-- The number `± digits · 10 ^ exponent` as it was written. -/
structure Decimal where
  negative : Bool
  digits : Nat
  exponent : Int
deriving DecidableEq, Repr

/-- The integer nearest to `top / bottom`; of two, the even one. -/
def roundEven (top bottom : Nat) : Nat :=
  let whole := top / bottom
  let twice := 2 * (top % bottom)
  if twice > bottom ∨ (twice = bottom ∧ whole % 2 = 1) then whole + 1 else whole

/-- The value `mantissa · 2 ^ power` of double precision nearest to a positive quotient. -/
def nearestBinary (top bottom : Nat) : Nat × Int :=
  let scaled (power : Int) : Nat × Nat :=
    if 0 ≤ power then (top, bottom * Nat.pow 2 power.toNat)
    else (top * Nat.pow 2 (-power).toNat, bottom)
  let guess : Int := (top.log2 : Int) - (bottom.log2 : Int) - 53
  let exact : Int :=
    if (scaled guess).1 / (scaled guess).2 < Nat.pow 2 53 then guess else guess + 1
  let power := max exact (-1074)
  (roundEven (scaled power).1 (scaled power).2, power)

namespace Decimal

/-- The number of decimal digits of a natural number. -/
def width (n : Nat) : Nat :=
  (Nat.toDigits 10 n).length

/-- The number is so large that its value need not be worked out. -/
def isImmense (number : Decimal) : Bool :=
  number.digits ≠ 0 && (width number.digits : Int) + number.exponent > 309

/-- The number is below every positive value. -/
def isTiny (number : Decimal) : Bool :=
  number.digits = 0 || (width number.digits : Int) + number.exponent < -330

/-- The size of the nearest value as `mantissa · 2 ^ power`. -/
def nearest (number : Decimal) : Nat × Int :=
  if 0 ≤ number.exponent then
    nearestBinary (number.digits * Nat.pow 10 number.exponent.toNat) 1
  else nearestBinary number.digits (Nat.pow 10 (-number.exponent).toNat)

/-- The nearest value is beyond the largest finite one. -/
def isHuge (number : Decimal) : Bool :=
  if number.isTiny then false
  else if number.isImmense then true
  else
    let (mantissa, power) := number.nearest
    0 ≤ power && Nat.pow 2 1024 ≤ mantissa * Nat.pow 2 power.toNat

/-- The size of the nearest value, if it is an integer. -/
def integralSize? (number : Decimal) : Option Nat :=
  if number.isTiny then some 0
  else if number.isImmense then none
  else
    let (mantissa, power) := number.nearest
    if 0 ≤ power then some (mantissa * Nat.pow 2 power.toNat)
    else
      let unit := Nat.pow 2 (-power).toNat
      if mantissa % unit = 0 then some (mantissa / unit) else none

/-- The nearest value, if it is an integer. -/
def integral? (number : Decimal) : Option Int :=
  number.integralSize?.map fun (size : Nat) => if number.negative then -(size : Int) else size

end Decimal

end PatchSurvey
