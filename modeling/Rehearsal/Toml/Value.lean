import Rehearsal.Toml.Fault
import Rehearsal.Toml.Scalar

/-!
The values of TOML texts. A table remembers how it came about, which decides whether later lines
may add to it.
-/

namespace Rehearsal.Toml

/-- How a table came about. -/
inductive TableForm where
  /-- Named in passing by the header of another table. -/
  | implied
  /-- Named in passing by a dotted key. -/
  | dotted
  /-- Begun by a header of its own. -/
  | defined
  /-- Written between braces. -/
  | inlined
deriving DecidableEq, Repr

/-- A value. -/
inductive Value where
  | string (text : String)
  | integer (value : Int)
  | real (value : Numeral)
  | bool (value : Bool)
  /-- A date, a time of day or both, as it is written. -/
  | moment (text : String)
  | array (items : List Value)
  /-- The tables that headers in double brackets begin. -/
  | tables (items : List Value)
  | table (form : TableForm) (entries : List (String × Value))

/-- The entries of a table, in the order in which they came about. -/
abbrev Entries := List (String × Value)

/-- The value of a key. -/
def Entries.get? (entries : Entries) (key : String) : Option Value :=
  (entries.find? fun entry => entry.1 == key).map Prod.snd

/-- Gives a key a value, in place of the one that it has. -/
def Entries.put (entries : Entries) (key : String) (value : Value) : Entries :=
  if entries.any fun entry => entry.1 == key then
    entries.map fun entry => if entry.1 == key then (key, value) else entry
  else entries ++ [(key, value)]

/-- Changes the table at the end of a path. Tables that are missing on the way come about; a
dotted key adds to no table that a header began, and nothing adds to a table between braces. -/
def Entries.change (dotted : Bool) (edit : TableForm → Entries → Except Fault Entries)
    : List String → TableForm → Entries → Except Fault Entries
  | [], form, entries => edit form entries
  | key :: path, _, entries =>
      match entries.get? key with
      | none => do
          let form : TableForm := if dotted then .dotted else .implied
          return entries.put key (.table form (← change dotted edit path form []))
      | some (.table form inner) =>
          if form == .inlined then .error .extension
          else if dotted && form == .defined then .error .duplicateKey
          else do return entries.put key (.table form (← change dotted edit path form inner))
      | some (.tables items) =>
          match items.getLast? with
          | some (.table form inner) => do
              let last := Value.table form (← change dotted edit path form inner)
              return entries.put key (.tables (items.dropLast ++ [last]))
          | _ => .error .extension
      | some _ => .error .extension

/-- Adds a value under a dotted key. -/
def Entries.add (path : List String) (key : String) (value : Value) (entries : Entries)
    : Except Fault Entries :=
  entries.change true (fun form inner =>
    if !path.isEmpty && form != .dotted || (inner.get? key).isSome then .error .duplicateKey
    else .ok (inner ++ [(key, value)])) path .defined

/-- Begins a table. -/
def Entries.define (path : List String) (key : String) (entries : Entries)
    : Except Fault Entries :=
  entries.change false (fun _ inner =>
    match inner.get? key with
    | none => .ok (inner ++ [(key, .table .defined [])])
    | some (.table .implied content) => .ok (inner.put key (.table .defined content))
    | some _ => .error .duplicateKey) path .defined

/-- Begins a further table of an array of tables. -/
def Entries.defineNext (path : List String) (key : String) (entries : Entries)
    : Except Fault Entries :=
  entries.change false (fun _ inner =>
    match inner.get? key with
    | none => .ok (inner ++ [(key, .tables [.table .defined []])])
    | some (.tables items) => .ok (inner.put key (.tables (items ++ [.table .defined []])))
    | some _ => .error .duplicateKey) path .defined

mutual

/-- Whether all numbers are of a size that can be held: 128 binary digits, and finite. -/
def Value.isHeld : Value → Bool
  | .integer value => -(Nat.pow 2 127 : Int) ≤ value && value < Nat.pow 2 128
  | .real (.finite value) => (Binary.ofDecimal? value).isSome
  | .array items | .tables items => areHeld items
  | .table _ entries => entriesHeld entries
  | _ => true

/-- The same for items. -/
def areHeld : List Value → Bool
  | [] => true
  | item :: rest => item.isHeld && areHeld rest

/-- The same for entries. -/
def entriesHeld : List (String × Value) → Bool
  | [] => true
  | (_, value) :: rest => value.isHeld && entriesHeld rest

end

end Rehearsal.Toml
