import Rehearsal.Decimal.Shortest
import Rehearsal.Text.CharSet

/-!
Numbers in YAML documents: whole numbers of 64 binary digits, in four notations, and real ones.
-/

namespace Rehearsal.Yaml

/-- A number. -/
inductive Number where
  | whole (value : Int)
  | real (value : Binary)
  | infinite (negative : Bool)
  | notANumber
deriving DecidableEq, Repr

namespace Number

/-- The written form of a number. -/
def text : Number → String
  | whole value => toString value
  | real value => value.text
  | infinite negative => if negative then "-.inf" else ".inf"
  | notANumber => ".nan"

/-- Whether two numbers are the same. The two zeros are, and a whole number is no real one. -/
def same : Number → Number → Bool
  | real left, real right => left == right || left.isZero && right.isZero
  | left, right => left == right

/-- The value of a digit in a base up to sixteen. -/
def digitIn? (base : Nat) (c : Char) : Option Nat :=
  (CharSet.hexValue? c).filter fun digit => digit < base

/-- The number that digits in a base write; there must be one. -/
def inBase? (base : Nat) (digits : List Char) : Option Nat :=
  if digits.isEmpty then none
  else digits.foldlM (fun number c => (digitIn? base c).map fun digit => base * number + digit) 0

/-- Drops a sign. -/
def unsigned : List Char → List Char
  | '+' :: rest => rest
  | '-' :: rest => rest
  | text => text

/-- Whether a text begins with a sign. -/
def isSigned (text : List Char) : Bool :=
  text.head? == some '+' || text.head? == some '-'

/-- Whether a text is of digits with a needless zero before them; it is no number. -/
def isPadded (text : List Char) : Bool :=
  let digits := unsigned text
  1 < digits.length && digits.head? == some '0' && digits.all Decimal.isDigit

/-- Reads a text without its sign in the three notations with a base. -/
def based? : List Char → Option Nat
  | '0' :: 'x' :: digits => inBase? 16 digits
  | '0' :: 'o' :: digits => inBase? 8 digits
  | '0' :: 'b' :: digits => inBase? 2 digits
  | _ => none

/-- Reads a whole number of any size. -/
def whole? (text : List Char) : Option Int :=
  let negative := text.head? == some '-'
  let digits := unsigned text
  if isSigned digits then none
  else
    let size := (based? digits).or (if isPadded text then none else inBase? 10 digits)
    size.map fun size => if negative then -(size : Int) else size

/-- How large a whole number is for what can be held. -/
inductive Size where
  | fitting
  /-- Too large, and refused. -/
  | refused
  /-- So large that it is read as a real number. -/
  | beyond
deriving DecidableEq, Repr

/-- The size of a whole number. -/
def sizeOf (value : Int) : Size :=
  if -(Nat.pow 2 63 : Int) ≤ value && value < Nat.pow 2 64 then .fitting
  else if -(Nat.pow 2 127 : Int) ≤ value && value < Nat.pow 2 128 then .refused
  else .beyond

/-- Reads a real number. -/
def real? (text : List Char) : Option Number :=
  let unplussed := if text.head? == some '+' then text.drop 1 else text
  if text.head? == some '+' && isSigned unplussed then none
  else if [".inf", ".Inf", ".INF"].contains (String.ofList unplussed) then some (infinite false)
  else if ["-.inf", "-.Inf", "-.INF"].contains (String.ofList text) then some (infinite true)
  else if [".nan", ".NaN", ".NAN"].contains (String.ofList text) then some notANumber
  else
    match Numeral.ofText? (String.ofList unplussed) with
    | some (.finite decimal) => (Binary.ofDecimal? decimal).map real
    | _ => none

end Number

end Rehearsal.Yaml
