import Rehearsal.Decimal.Binary

/-!
Lengths of time, in nanoseconds, and their reading from a written number of seconds.
-/

namespace Rehearsal

/-- A length of time in nanoseconds. -/
abbrev Duration := Nat

namespace Duration

/-- The number of nanoseconds in a second. -/
def second : Nat := 1000000000

/-- The number of nanoseconds in a millisecond. -/
def millisecond : Nat := 1000000

/-- The number of seconds that no length of time reaches. -/
def tooManySeconds : Nat := Nat.pow 2 64

/-- The length of time of a number of seconds: the number is not below zero and not too large. -/
def ofSeconds? (seconds : Binary) : Option Duration :=
  let (num, den) := seconds.fraction
  if seconds.negative && !seconds.isZero then none
  else if tooManySeconds * den ≤ num then none
  else some (Binary.roundQuotient (num * second) den)

/-- Reads a number of seconds. -/
def ofText? (text : String) : Option Duration :=
  match Numeral.ofText? text with
  | some (.finite decimal) => (Binary.ofDecimal? decimal).bind ofSeconds?
  | _ => none

end Duration

end Rehearsal
