import Rehearsal.Yaml.Fault
import Rehearsal.Yaml.Number

/-!
The values of YAML documents, and the reading of scalars. Mappings keep their entries in document
order.
-/

namespace Rehearsal.Yaml

/-- A value. -/
inductive Value where
  | null
  | bool (value : Bool)
  | number (value : Number)
  | string (text : String)
  | sequence (items : List Value)
  | mapping (entries : List (Value × Value))
  | tagged (tag : String) (value : Value)
deriving Inhabited, Repr

namespace Value

/-- Reads the words for nothing. -/
def isNullWord (text : String) : Bool :=
  ["null", "Null", "NULL", "~"].contains text

/-- Reads the words for truth. -/
def truth? (text : String) : Option Bool :=
  if ["true", "True", "TRUE"].contains text then some true
  else if ["false", "False", "FALSE"].contains text then some false
  else none

/-- Reads a whole number; `none` if the text is none. -/
def whole? (text : String) : Option (Except Fault Value) :=
  match Number.whole? text.toList with
  | none => none
  | some value =>
      match Number.sizeOf value with
      | .fitting => some (.ok (.number (.whole value)))
      | .refused => some (.error .scalarType)
      | .beyond => none

/-- Reads a plain scalar: nothing, a truth value or a number if it is written as one, and a text
otherwise. -/
def ofPlain (text : String) : Except Fault Value :=
  if text.isEmpty || isNullWord text then .ok .null
  else
    match truth? text with
    | some value => .ok (.bool value)
    | none =>
        match whole? text with
        | some value => value
        | none =>
            if Number.isPadded text.toList then .ok (.string text)
            else .ok ((Number.real? text.toList).elim (.string text) .number)

/-- The value of a reading that a tag demands. -/
def demanded (read : Option Value) : Except Fault Value :=
  match read with
  | some value => .ok value
  | none => .error .scalarType

/-- Reads a scalar under a tag of YAML's own; under any other tag of a global kind it is a text. -/
def ofTagged (tag text : String) : Except Fault Value :=
  match tag with
  | "tag:yaml.org,2002:bool" => demanded ((truth? text).map .bool)
  | "tag:yaml.org,2002:int" => (whole? text).getD (.error .scalarType)
  | "tag:yaml.org,2002:float" => demanded ((Number.real? text.toList).map .number)
  | "tag:yaml.org,2002:null" => demanded (if isNullWord text then some .null else none)
  | _ => .ok (.string text)

/-- Reads a scalar. -/
def ofScalar (tag : Option String) (plain : Bool) (text : String) : Except Fault Value :=
  match tag with
  | some tag => ofTagged tag text
  | none => if plain then ofPlain text else .ok (.string text)

mutual

/-- Whether two values are the same; the order of a mapping's entries does not count. -/
def same : Value → Value → Bool
  | .null, .null => true
  | .bool left, .bool right => left == right
  | .number left, .number right => left.same right
  | .string left, .string right => left == right
  | .sequence left, .sequence right => sameItems left right
  | .mapping left, .mapping right => left.length == right.length && covers left right
  | .tagged leftTag left, .tagged rightTag right => leftTag == rightTag && same left right
  | _, _ => false

/-- Whether two lists hold the same values in the same order. -/
def sameItems : List Value → List Value → Bool
  | [], [] => true
  | left :: lefts, right :: rights => same left right && sameItems lefts rights
  | _, _ => false

/-- Whether each of some entries is found among others. -/
def covers : List (Value × Value) → List (Value × Value) → Bool
  | [], _ => true
  | (key, value) :: rest, others => isIn key value others && covers rest others

/-- Whether an entry is found among others. -/
def isIn (key value : Value) : List (Value × Value) → Bool
  | [] => false
  | (otherKey, otherValue) :: rest =>
      same key otherKey && same value otherValue || isIn key value rest

end

end Value

end Rehearsal.Yaml
