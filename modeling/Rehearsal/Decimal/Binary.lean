import Rehearsal.Decimal.Basic

/-!
Numbers with 53 binary digits, and the one nearest to a decimal number. Of two that are equally
near, the one with the even mantissa is taken.
-/

namespace Rehearsal

/-- A number `mantissa · 2 ^ exponent` with a sign. The mantissa has at most 53 digits, and the
exponent is at least `Binary.leastExponent`. -/
structure Binary where
  negative : Bool := false
  mantissa : Nat
  exponent : Int
deriving DecidableEq, Repr

namespace Binary

/-- The number of digits of a mantissa. -/
def precision : Nat := 53

/-- The exponent of the smallest numbers. -/
def leastExponent : Int := -1074

/-- The exponent of the largest numbers. -/
def mostExponent : Int := 971

/-- A quotient to the nearest whole number; a half goes to the even one. -/
def roundQuotient (num den : Nat) : Nat :=
  let quotient := num / den
  let twice := 2 * (num % den)
  if twice < den then quotient
  else if den < twice then quotient + 1
  else quotient + quotient % 2

/-- A fraction times a power of a base, as a fraction. -/
def scale (base : Nat) (power : Int) (num den : Nat) : Nat × Nat :=
  if 0 ≤ power then (num * Nat.pow base power.toNat, den)
  else (num, den * Nat.pow base (-power).toNat)

/-- The exponent for a mantissa of full length, or the least one. -/
def exponentFor (num den : Nat) : Int :=
  let guess : Int := num.log2 - den.log2 - precision
  let (scaledNum, scaledDen) := scale 2 (-guess) num den
  max leastExponent (if scaledNum < Nat.pow 2 precision * scaledDen then guess else guess + 1)

/-- The number nearest to a positive fraction; `none` if it is too large. -/
def ofFraction? (negative : Bool) (num den : Nat) : Option Binary :=
  let exponent := exponentFor num den
  let (scaledNum, scaledDen) := scale 2 (-exponent) num den
  let mantissa := roundQuotient scaledNum scaledDen
  let rounded : Binary :=
    if mantissa < Nat.pow 2 precision then { negative, mantissa, exponent }
    else { negative, mantissa := Nat.pow 2 (precision - 1), exponent := exponent + 1 }
  if mostExponent < rounded.exponent then none else some rounded

/-- The zero with a sign. -/
def zero (negative : Bool) : Binary :=
  { negative, mantissa := 0, exponent := leastExponent }

/-- The number nearest to a decimal number; `none` if it is too large. -/
def ofDecimal? (decimal : Decimal) : Option Binary :=
  let size : Int := decimal.digits.log2 / 4 + decimal.exponent
  if decimal.digits = 0 || decimal.digits.log2 / 3 + 1 + decimal.exponent < -400 then
    some (zero decimal.negative)
  else if 400 < size then none
  else
    let (num, den) := scale 10 decimal.exponent decimal.digits 1
    ofFraction? decimal.negative num den

/-- Whether the number is zero. -/
def isZero (number : Binary) : Bool :=
  number.mantissa == 0

/-- The number without its sign, as a fraction. -/
def fraction (number : Binary) : Nat × Nat :=
  scale 2 number.exponent number.mantissa 1

end Binary

end Rehearsal
