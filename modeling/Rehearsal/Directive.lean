import Rehearsal.Browser.Session
import Rehearsal.Pattern
import Rehearsal.Capture
import Rehearsal.Scope

/-!
Forms of directives: what a directive looks like, what it does, and whether it is meant to fail.
-/

namespace Rehearsal

/-- The arguments of a directive by name. -/
abbrev Args := Dict String

/-- What a directive does. It passes unless it fails or answers `false`. -/
abbrev Handler := Args → Browser.Drive (Option Bool)

/-- A form of directives. -/
structure DirectiveForm where
  pattern : Pattern
  handler : Handler
  /-- The kind of failure that the handler must end in, if it is meant to fail. -/
  expected : Option FailureKind := none

namespace DirectiveForm

/-- The capture name that stands for the browser and that no form may use. -/
def reservedName : String := "driver"

/-- The refusal of a form. -/
inductive Refusal where
  | malformed (source : String) (error : Pattern.PatternError)
  | reserved (source : String)
deriving DecidableEq, Repr

/-- The wording of a refusal. -/
def Refusal.message : Refusal → String
  | malformed source error => "compile directive pattern '" ++ source ++ "': " ++ error.message
  | reserved source =>
      "directive pattern '" ++ source ++ "' uses the reserved capture name '" ++ reservedName ++ "'"

/-- A form whose pattern disregards letter case and does not use the reserved name. -/
def ofText (source : String) (expected : Option FailureKind) (handler : Handler)
    : Except Refusal DirectiveForm :=
  match Pattern.ofText true source with
  | .error error => .error (.malformed source error)
  | .ok pattern =>
      if pattern.groupNames.contains reservedName then .error (.reserved source)
      else .ok { pattern, handler, expected }

/-- The failure of a directive whose handler ended in a given way. A form that is meant to fail
passes only with a failure of the expected kind. -/
def judge (form : DirectiveForm) (ending : Except Failure (Option Bool)) : Option Failure :=
  match form.expected, ending with
  | none, .error failure => some failure
  | none, .ok (some false) => some .returnedFalse
  | none, .ok _ => none
  | some kind, .error failure =>
      if failure.kind = kind then none
      else some (.expectedErrorNotRaised kind (some failure.message))
  | some kind, .ok _ => some (.expectedErrorNotRaised kind none)

end DirectiveForm

/-- The argument that a captured text stands for. -/
def argumentOf (scope : Scope) (raw : String) : Except Failure String :=
  match Capture.ofRaw raw with
  | .literal text => .ok text
  | .variable name =>
      match scope.get? name with
      | some value => .ok value
      | none => .error (.undefinedVariable name)

/-- Adds the arguments for some names to those that are known. A name that captured nothing has
no argument, and the reserved name is refused. -/
def addArguments (scope : Scope) (found : Pattern.Match)
    : List String → Args → Except Failure Args
  | [], args => .ok args
  | name :: rest, args =>
      if name = DirectiveForm.reservedName then .error (.reservedCapture name)
      else
        match found.captured? name with
        | none => addArguments scope found rest args
        | some raw => do
            let value ← argumentOf scope raw
            addArguments scope found rest (args.insert name value)

end Rehearsal
