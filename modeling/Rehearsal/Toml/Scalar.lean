import Rehearsal.Decimal.Binary
import Rehearsal.Text.CharSet
import Rehearsal.Text.Split

/-!
Numbers and points in time as TOML texts write them.
-/

namespace Rehearsal.Toml

/-- Drops a sign. -/
def unsigned : List Char → List Char
  | '+' :: rest => rest
  | '-' :: rest => rest
  | text => text

/-- Digits without the underscores between them; there is a digit on either side of each. -/
def ungrouped? (isDigit : Char → Bool) (text : List Char) : Option (List Char) :=
  let parts := Text.splitAt '_' text
  if parts.all fun part => !part.isEmpty && part.all isDigit then some parts.flatten else none

/-- Reads the digits of a whole number in base ten; a zero before other digits is refused. -/
def wholeDigits? (text : List Char) : Option (List Char) :=
  (ungrouped? Decimal.isDigit text).filter fun digits =>
    digits.length == 1 || digits.head? != some '0'

/-- Reads a number in another base. -/
def inBase? (base : Nat) (text : List Char) : Option Nat :=
  let isDigit (c : Char) : Bool := (CharSet.hexValue? c).any fun digit => digit < base
  (ungrouped? isDigit text).map fun digits =>
    digits.foldl (fun number c => base * number + (CharSet.hexValue? c).getD 0) 0

/-- Reads a whole number. Only numbers in base ten have a sign. -/
def whole? (text : List Char) : Option Int :=
  match text with
  | '0' :: 'x' :: digits => (inBase? 16 digits).map Int.ofNat
  | '0' :: 'o' :: digits => (inBase? 8 digits).map Int.ofNat
  | '0' :: 'b' :: digits => (inBase? 2 digits).map Int.ofNat
  | _ =>
      (wholeDigits? (unsigned text)).map fun digits =>
        if text.head? == some '-' then -(Decimal.value digits : Int) else Decimal.value digits

/-- Whether a text is an exponent: a letter, perhaps a sign, and digits. -/
def isExponent : List Char → Bool
  | c :: rest =>
      (c == 'e' || c == 'E') && (ungrouped? Decimal.isDigit (unsigned rest)).isSome
  | [] => false

/-- Whether a text is a real number with a fraction or an exponent. -/
def isReal (text : List Char) : Bool :=
  let belongs (c : Char) : Bool := Decimal.isDigit c || c == '_'
  let digits := unsigned text
  let whole := digits.takeWhile belongs
  (wholeDigits? whole).isSome
    && match digits.dropWhile belongs with
      | '.' :: rest =>
          let fraction := rest.takeWhile belongs
          let exponent := rest.dropWhile belongs
          (ungrouped? Decimal.isDigit fraction).isSome && (exponent.isEmpty || isExponent exponent)
      | exponent => isExponent exponent

/-- Reads a real number. -/
def real? (text : List Char) : Option Numeral :=
  match String.ofList (unsigned text) with
  | "inf" => some (.infinite (text.head? == some '-'))
  | "nan" => some .notANumber
  | _ =>
      if isReal text then Numeral.ofText? (String.ofList (text.filter (· != '_'))) else none

/-- Reads a number of a given count of digits. -/
def digits? (count : Nat) (text : List Char) : Option (Nat × List Char) :=
  let digits := text.take count
  if digits.length == count && digits.all Decimal.isDigit then
    some (Decimal.value digits, text.drop count)
  else none

/-- Reads a character. -/
def char? (wanted : Char) : List Char → Option (List Char)
  | c :: rest => if c == wanted then some rest else none
  | [] => none

/-- The number of days of a month. -/
def daysOf (year month : Nat) : Nat :=
  if month == 2 then
    if year % 4 == 0 && (year % 100 != 0 || year % 400 == 0) then 29 else 28
  else if [4, 6, 9, 11].contains month then 30
  else 31

/-- Reads a date; what is left of the text. -/
def date? (text : List Char) : Option (List Char) := do
  let (year, rest) ← digits? 4 text
  let (month, rest) ← digits? 2 (← char? '-' rest)
  let (day, rest) ← digits? 2 (← char? '-' rest)
  if 1 ≤ month && month ≤ 12 && 1 ≤ day && day ≤ daysOf year month then some rest else none

/-- Reads a time of day; what is left of the text. Seconds may be left out. -/
def time? (text : List Char) : Option (List Char) := do
  let (hour, rest) ← digits? 2 text
  let (minute, rest) ← digits? 2 (← char? ':' rest)
  if 23 < hour || 59 < minute then none
  else
    match rest with
    | ':' :: rest =>
        let (second, rest) ← digits? 2 rest
        if 60 < second then none
        else
          match rest with
          | '.' :: rest =>
              let fraction := rest.takeWhile Decimal.isDigit
              if fraction.isEmpty then none else some (rest.dropWhile Decimal.isDigit)
          | _ => some rest
    | _ => some rest

/-- Whether a text is a distance from universal time. -/
def isOffset (text : List Char) : Bool :=
  match text with
  | ['Z'] | ['z'] => true
  | c :: rest =>
      (c == '+' || c == '-')
        && (do
              let (hour, rest) ← digits? 2 rest
              let (minute, rest) ← digits? 2 (← char? ':' rest)
              some (hour ≤ 23 && minute ≤ 59 && rest.isEmpty)).getD false
  | [] => false

/-- Whether a text is a date, a time of day, or both with or without a distance from universal
time. -/
def isMoment (text : List Char) : Bool :=
  match date? text with
  | some [] => true
  | some (c :: rest) =>
      (c == 'T' || c == 't' || c == ' ')
        && (time? rest).any fun offset => offset.isEmpty || isOffset offset
  | none => (time? text).any List.isEmpty

end Rehearsal.Toml
