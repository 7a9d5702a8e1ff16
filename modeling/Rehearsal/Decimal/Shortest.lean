import Rehearsal.Decimal.Binary

/-!
The shortest decimal that reads back as a given number, and its written form. Of several shortest
ones the nearest is taken.
-/

namespace Rehearsal.Binary

/-- Whether a fraction is rounded to a number: it lies at most halfway to the neighbours, and
halfway only if the mantissa is even. The lower neighbour of a power of two is nearer. -/
def readsBack (number : Binary) (num den : Nat) : Bool :=
  let narrow :=
    number.mantissa == Nat.pow 2 (precision - 1) && number.exponent != leastExponent
  let (low, lowDen) :=
    scale 2 (number.exponent - 2) (4 * number.mantissa - if narrow then 1 else 2) 1
  let (high, highDen) := scale 2 (number.exponent - 2) (4 * number.mantissa + 2) 1
  if number.mantissa % 2 == 0 then low * den ≤ num * lowDen && num * highDen ≤ high * den
  else low * den < num * lowDen && num * highDen < high * den

/-- Which of two neighbours on a grid is the written one, if one of them is. -/
def choose? (number : Binary) (exponent : Int) : Option Nat :=
  let (num, den) := number.fraction
  let (scaledNum, scaledDen) := scale 10 (-exponent) num den
  let below := scaledNum / scaledDen
  let hits (digits : Nat) : Bool :=
    let (num, den) := scale 10 exponent digits 1
    number.readsBack num den
  match hits below, hits (below + 1) with
  | true, true => some (roundQuotient scaledNum scaledDen)
  | true, false => some below
  | false, true => some (below + 1)
  | false, false => none

/-- The first of a list of grids on which a neighbour reads back. -/
def shortestOn (number : Binary) : List Int → Decimal
  | [] => { negative := number.negative, digits := 0 }
  | exponent :: rest =>
      match number.choose? exponent with
      | some digits => { negative := number.negative, digits, exponent }
      | none => number.shortestOn rest

/-- A grid that is coarser than any number. -/
def coarsest : Int := 310

/-- The shortest decimal that reads back as a number; on one grid a neighbour above zero. -/
def shortest (number : Binary) : Decimal :=
  if number.isZero then { negative := number.negative, digits := 0 }
  else number.shortestOn ((List.range 640).map fun step => coarsest - Int.ofNat step)

/-- The written form of a decimal: positional between a hundred-thousandth and ten to the
sixteenth, with a point always, and otherwise with an exponent after one digit. -/
def layout (decimal : Decimal) : String :=
  let digits := toString decimal.digits
  let count := digits.length
  let point : Int := count + decimal.exponent
  let zeros (number : Int) : String := "".pushn '0' number.toNat
  let sign := if decimal.negative then "-" else ""
  let body :=
    if decimal.digits = 0 then "0.0"
    else if 0 ≤ decimal.exponent && point ≤ 16 then digits ++ zeros decimal.exponent ++ ".0"
    else if 0 < point && point ≤ 16 then
      String.ofList (digits.toList.take point.toNat) ++ "."
        ++ String.ofList (digits.toList.drop point.toNat)
    else if -5 < point && point ≤ 0 then "0." ++ zeros (-point) ++ digits
    else
      let first := String.ofList (digits.toList.take 1)
      let others := String.ofList (digits.toList.drop 1)
      first ++ (if count = 1 then "" else "." ++ others) ++ "e" ++ toString (point - 1)
  sign ++ body

/-- The written form of a number. -/
def text (number : Binary) : String :=
  layout number.shortest

end Rehearsal.Binary
