import Rehearsal.Document.Fault
import Rehearsal.Yaml.Value

/-!
The parts that the documents of a suite are made of: fields, scalars, lists of scalars, and lists
of single entries. Scalars are kept as texts, and the letter case of a field's key does not count.
-/

namespace Rehearsal.Document

/-- The fields of a mapping, in document order. -/
abbrev Fields := List (Yaml.Value × Yaml.Value)

/-- A value without its tags. -/
def untagged : Yaml.Value → Yaml.Value
  | .tagged _ value => untagged value
  | value => value

/-- The fields of a value that is a mapping. -/
def fields? (value : Yaml.Value) : Option Fields :=
  match untagged value with
  | .mapping fields => some fields
  | _ => none

/-- The items of a value that is a list. -/
def items? (value : Yaml.Value) : Option (List Yaml.Value) :=
  match untagged value with
  | .sequence items => some items
  | _ => none

/-- The text of a scalar; nothing is the empty text. -/
def scalar (value : Yaml.Value) : Except Fault String :=
  match untagged value with
  | .string text => .ok text
  | .number number => .ok number.text
  | .bool true => .ok "true"
  | .bool false => .ok "false"
  | .null => .ok ""
  | _ => .error .notAScalar

/-- Whether a value is the key of a field, in any letter case. -/
def isKey (key : String) (value : Yaml.Value) : Bool :=
  match untagged value with
  | .string text => text.toLower == key.toLower
  | _ => false

/-- The content of the first field with a key. -/
def field? (fields : Fields) (key : String) : Option Yaml.Value :=
  (fields.find? fun field => isKey key field.1).map Prod.snd

/-- The text of a field that must be there. -/
def requiredText (fields : Fields) (key : String) : Except Fault String :=
  match field? fields key with
  | none => .error (.missingKey key)
  | some value => inPlace (.key key) (scalar value)

/-- The texts of a field that may be left out. -/
def texts (fields : Fields) (key : String) : Except Fault (List String) :=
  match field? fields key with
  | none | some .null => .ok []
  | some (.sequence items) => inPlace (.key key) (items.mapM scalar)
  | some _ => .error (.notAList key)

/-- The key and the content of a mapping that has a single key. -/
def singleEntry (value : Yaml.Value) : Except Fault (String × Yaml.Value) :=
  match fields? value with
  | none => .error .notAnEntry
  | some [(key, content)] => return (← scalar key, content)
  | some fields => .error (.notSingle fields.length)

/-- A name and its text, in the list under a key. -/
def binding (key : String) (value : Yaml.Value) : Except Fault (String × String) := do
  let (name, content) ← inPlace (.entryOf key) (singleEntry value)
  return (name, ← scalar content)

/-- The names and texts of a field that may be left out. -/
def bindings (fields : Fields) (key : String) : Except Fault (List (String × String)) :=
  match field? fields key with
  | none => .ok []
  | some value =>
      match untagged value with
      | .null => .ok []
      | .sequence items => items.mapM (binding key)
      | _ => .error (.notBindings key)

/-- The variables of a task or plan: those that may be set again, and the frozen ones of its
glossary. -/
def variablesOf (fields : Fields) : Except Fault Variables := do
  let settings ← bindings fields "variables"
  let freezings ← bindings fields "glossary"
  inPlace .glossary ((Variables.ofLists settings freezings).mapError .frozen)

end Rehearsal.Document
