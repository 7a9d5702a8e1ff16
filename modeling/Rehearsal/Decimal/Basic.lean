/-!
Decimal numbers as they are written: a sign, digits, and a power of ten. Reading takes an
optional sign, digits with an optional point, and an optional exponent.
-/

namespace Rehearsal

/-- A number `digits · 10 ^ exponent` with a sign; zero has a sign too. -/
structure Decimal where
  negative : Bool := false
  digits : Nat
  exponent : Int := 0
deriving DecidableEq, Repr

/-- A written number, finite or not. -/
inductive Numeral where
  | finite (value : Decimal)
  | infinite (negative : Bool)
  | notANumber
deriving DecidableEq, Repr

namespace Decimal

/-- Whether a character is one of the ten ASCII digits. -/
def isDigit (c : Char) : Bool :=
  '0' ≤ c && c ≤ '9'

/-- The value of a digit. -/
def digitValue (c : Char) : Nat :=
  c.toNat - '0'.toNat

/-- The number that digits write, most significant first. -/
def value (digits : List Char) : Nat :=
  digits.foldl (fun total c => 10 * total + digitValue c) 0

/-- Splits off a sign; only a minus makes a number negative. -/
def splitSign : List Char → Bool × List Char
  | '+' :: rest => (false, rest)
  | '-' :: rest => (true, rest)
  | text => (false, text)

/-- Reads an exponent to the end of the text. -/
def exponent? : List Char → Option Int
  | [] => some 0
  | c :: rest =>
      if c == 'e' || c == 'E' then
        let (negative, digits) := splitSign rest
        if digits.isEmpty || !digits.all isDigit then none
        else some (if negative then -(value digits : Int) else value digits)
      else none

/-- Reads a number without a sign to the end of the text. There is a digit before the point or
after it. -/
def unsigned? (negative : Bool) (text : List Char) : Option Decimal :=
  let whole := text.takeWhile isDigit
  let (fraction, rest) :=
    match text.dropWhile isDigit with
    | '.' :: rest => (rest.takeWhile isDigit, rest.dropWhile isDigit)
    | rest => ([], rest)
  if whole.isEmpty && fraction.isEmpty then none
  else
    (exponent? rest).map fun exponent =>
      { negative, digits := value (whole ++ fraction), exponent := exponent - fraction.length }

end Decimal

namespace Numeral

/-- Whether two texts agree up to the case of ASCII letters. -/
def isWord (text word : List Char) : Bool :=
  text.map Char.toLower == word

/-- Reads a number: a decimal, or one of the words for an infinite number and for none, in any
letter case. -/
def ofText? (text : String) : Option Numeral :=
  let (negative, rest) := Decimal.splitSign text.toList
  if isWord rest "inf".toList || isWord rest "infinity".toList then some (infinite negative)
  else if isWord rest "nan".toList then some notANumber
  else (Decimal.unsigned? negative rest).map finite

end Numeral

end Rehearsal
