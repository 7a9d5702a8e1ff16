/-!
JSON values as reports use them: numbers are counts, and an object keeps its fields in the order
in which they were written.
-/

namespace Rehearsal

/-- A JSON value. -/
inductive Json where
  | null
  | bool (value : Bool)
  | count (value : Nat)
  | string (value : String)
  | array (items : List Json)
  | object (fields : List (String × Json))
deriving Inhabited, Repr

namespace Json

/-- The value of a field of an object. -/
def field? (json : Json) (name : String) : Option Json :=
  match json with
  | object fields => (fields.find? fun field => field.1 == name).map Prod.snd
  | _ => none

/-- The text of a string value. -/
def string? : Json → Option String
  | string value => some value
  | _ => none

end Json

end Rehearsal
