import Rehearsal.Json.Basic
import Rehearsal.Result

/-!
Result trees as JSON values. A failure is tagged by its kind, an absent failure and an empty list
of children are left out, and reading ignores fields that it does not know.
-/

namespace Rehearsal

namespace Failure

/-- The fields of a failure after its tag. -/
def fields : Failure → List (String × Json)
  | elementNotFound selector => [("selector", .string selector)]
  | staleElement message => [("message", .string message)]
  | noSuchWindow message => [("message", .string message)]
  | noAlertPresent => []
  | assertion message => [("message", .string message)]
  | returnedFalse => []
  | expectedErrorNotRaised expected received =>
      [("expected", .string expected.tag), ("received", received.elim .null .string)]
  | noHandler directive => [("directive", .string directive)]
  | reservedCapture name => [("name", .string name)]
  | undefinedVariable name => [("name", .string name)]
  | immutableAccess key => [("key", .string key)]
  | unknownTask name => [("name", .string name)]
  | unknownEnvironment environment => [("environment", .string environment)]
  | prerequisiteCycle name => [("name", .string name)]
  | stepAborted directive cause => [("directive", .string directive), ("cause", .string cause)]
  | driver message => [("message", .string message)]
  | other errorType message =>
      [("error_type", .string errorType), ("message", .string message)]

/-- A failure as an object with its tag first. -/
def toJson (failure : Failure) : Json :=
  .object (("kind", .string failure.kind.tag) :: failure.fields)

/-- A field that may be absent or null, and is a text otherwise. -/
def optionalText? (json : Json) (name : String) : Option (Option String) :=
  match json.field? name with
  | none | some .null => some none
  | some (.string text) => some (some text)
  | some _ => none

/-- Reads a failure. -/
def ofJson? (json : Json) : Option Failure := do
  let text (name : String) : Option String := do (← json.field? name).string?
  match ← FailureKind.ofTag? (← text "kind") with
  | .elementNotFound => return elementNotFound (← text "selector")
  | .staleElement => return staleElement (← text "message")
  | .noSuchWindow => return noSuchWindow (← text "message")
  | .noAlertPresent => return noAlertPresent
  | .assertion => return assertion (← text "message")
  | .returnedFalse => return returnedFalse
  | .expectedErrorNotRaised =>
      return expectedErrorNotRaised (← FailureKind.ofTag? (← text "expected"))
        (← optionalText? json "received")
  | .noHandler => return noHandler (← text "directive")
  | .reservedCapture => return reservedCapture (← text "name")
  | .undefinedVariable => return undefinedVariable (← text "name")
  | .immutableAccess => return immutableAccess (← text "key")
  | .unknownTask => return unknownTask (← text "name")
  | .unknownEnvironment => return unknownEnvironment (← text "environment")
  | .prerequisiteCycle => return prerequisiteCycle (← text "name")
  | .stepAborted => return stepAborted (← text "directive") (← text "cause")
  | .driver => return driver (← text "message")
  | .other => return other (← text "error_type") (← text "message")

end Failure

namespace Result

mutual

/-- A tree as an object: its name, its failure if it has one, its children if it has any. -/
def toJson : Result → Json
  | ⟨name, error, children⟩ =>
      .object
        (("name", .string name)
          :: ((error.elim [] fun failure => [("error", failure.toJson)])
            ++ (if children.isEmpty then [] else [("children", .array (toJsonList children))])))

/-- Several trees as values. -/
def toJsonList : List Result → List Json
  | [] => []
  | result :: rest => toJson result :: toJsonList rest

end

/-- The failure of a node: absent, null or a failure. -/
def errorOfJson? (json : Option Json) : Option (Option Failure) :=
  match json with
  | none | some .null => some none
  | some value => (Failure.ofJson? value).map some

/-- The field of a list of fields with a name. -/
def lookup? (fields : List (String × Json)) (name : String) : Option Json :=
  (fields.find? fun field => field.1 == name).map Prod.snd

mutual

/-- Reads a tree. -/
def ofJson? : Json → Option Result
  | .object fields => do
      let name ← (← lookup? fields "name").string?
      let error ← errorOfJson? (lookup? fields "error")
      let children ← childrenOfFields? fields
      return { name, error, children }
  | _ => none

/-- The children among the fields of a node; none if there is no such field. -/
def childrenOfFields? : List (String × Json) → Option (List Result)
  | [] => some []
  | (name, value) :: rest =>
      if name == "children" then
        match value with
        | .array items => ofJsonList? items
        | _ => none
      else childrenOfFields? rest

/-- Reads several trees. -/
def ofJsonList? : List Json → Option (List Result)
  | [] => some []
  | item :: rest => do
      let result ← ofJson? item
      let results ← ofJsonList? rest
      return result :: results

end

end Result

end Rehearsal
