import Rehearsal.Text.Split

/-!
Sets of characters as ordered, disjoint ranges of code points, with the operations of set algebra
and the reading of tables of ranges.
-/

namespace Rehearsal

/-- A set of characters, as ranges with both ends included. -/
structure CharSet where
  ranges : List (Nat × Nat) := []
deriving DecidableEq, Repr

namespace CharSet

/-- The greatest code point. -/
def top : Nat := 0x10FFFF

/-- Whether a character is in the set. -/
def mem (set : CharSet) (c : Char) : Bool :=
  set.ranges.any fun range => range.1 ≤ c.toNat && c.toNat ≤ range.2

/-- Adds a range to ordered, disjoint ranges, joining it with those that it meets. -/
def insertRange (low high : Nat) : List (Nat × Nat) → List (Nat × Nat)
  | [] => [(low, high)]
  | range :: rest =>
      if high + 1 < range.1 then (low, high) :: range :: rest
      else if range.2 + 1 < low then range :: insertRange low high rest
      else insertRange (min low range.1) (max high range.2) rest

/-- The set of the characters in some ranges. -/
def ofRanges (ranges : List (Nat × Nat)) : CharSet :=
  ⟨ranges.foldl (fun set range => insertRange range.1 range.2 set) []⟩

/-- The set of some code points. -/
def ofPoints (points : List Nat) : CharSet :=
  ofRanges (points.map fun point => (point, point))

/-- The set of all characters. -/
def all : CharSet :=
  ⟨[(0, top)]⟩

/-- The characters in either set. -/
def union (left right : CharSet) : CharSet :=
  ⟨right.ranges.foldl (fun set range => insertRange range.1 range.2 set) left.ranges⟩

/-- The gaps from a start on between ordered, disjoint ranges. -/
def gaps (start : Nat) : List (Nat × Nat) → List (Nat × Nat)
  | [] => if start ≤ top then [(start, top)] else []
  | range :: rest =>
      if start < range.1 then (start, range.1 - 1) :: gaps (range.2 + 1) rest
      else gaps (range.2 + 1) rest

/-- The characters that are not in the set. -/
def complement (set : CharSet) : CharSet :=
  ⟨gaps 0 set.ranges⟩

/-- The characters in both sets. -/
def inter (left right : CharSet) : CharSet :=
  (left.complement.union right.complement).complement

/-- The characters in the first set and not in the second. -/
def diff (left right : CharSet) : CharSet :=
  left.inter right.complement

/-- The characters in one of the sets and not in the other. -/
def symmDiff (left right : CharSet) : CharSet :=
  (left.diff right).union (right.diff left)

/-- The value of a hexadecimal digit. -/
def hexValue? (c : Char) : Option Nat :=
  if '0' ≤ c && c ≤ '9' then some (c.toNat - 48)
  else if 'a' ≤ c && c ≤ 'f' then some (c.toNat - 87)
  else if 'A' ≤ c && c ≤ 'F' then some (c.toNat - 55)
  else none

/-- The number that hexadecimal digits write; any other character is skipped. -/
def hexNumber (digits : List Char) : Nat :=
  digits.foldl (fun number c => (hexValue? c).elim number fun digit => 16 * number + digit) 0

/-- A range of a table: one code point, or two with a hyphen between them. -/
def rangeOfText (text : List Char) : Nat × Nat :=
  let first := text.takeWhile (· != '-')
  match text.drop (first.length + 1) with
  | [] => (hexNumber first, hexNumber first)
  | second => (hexNumber first, hexNumber second)

/-- The set that a row of a table lists, in increasing order. -/
def ofTable (row : String) : CharSet :=
  ⟨((Text.splitAt ' ' row.toList).filter (!·.isEmpty)).map rangeOfText⟩

end CharSet

end Rehearsal
