import Rehearsal.Directive
import Rehearsal.Result

/-!
The forms of directives in the order of their registration. A directive is of the first form whose
pattern occurs in it; it is carried out by that form's handler and no other.
-/

namespace Rehearsal

/-- The known forms of directives, in order of priority. -/
structure DirectiveRegistry where
  forms : List DirectiveForm := []

/-- A directive of a known form. -/
structure Resolved where
  /-- The place of the form in the registry. -/
  place : Nat
  form : DirectiveForm
  found : Pattern.Match

namespace Resolved

/-- The texts captured from the directive, by name. -/
def captures (resolved : Resolved) : List (String × Option String) :=
  resolved.form.pattern.groupNames.map fun name => (name, resolved.found.captured? name)

/-- The arguments of the directive in a scope. -/
def args (resolved : Resolved) (scope : Scope) : Except Failure Args :=
  addArguments scope resolved.found resolved.form.pattern.groupNames ∅

end Resolved

/-- The record of a handler that was called. -/
structure HandlerCall where
  /-- The place of its form in the registry. -/
  place : Nat
  args : Args
deriving DecidableEq

/-- A directive that has been carried out, or could not be. -/
structure Dispatched where
  result : Result
  call : Option HandlerCall := none

namespace DirectiveRegistry

instance : EmptyCollection DirectiveRegistry := ⟨{}⟩

/-- The written patterns. -/
def sources (registry : DirectiveRegistry) : List String :=
  registry.forms.map fun form => form.pattern.source

/-- The number of forms. -/
def size (registry : DirectiveRegistry) : Nat :=
  registry.forms.length

/-- Adds a form after the others. -/
def add (registry : DirectiveRegistry) (form : DirectiveForm) : DirectiveRegistry :=
  ⟨registry.forms ++ [form]⟩

/-- Adds a form by its written pattern, unless the form is refused. -/
def register (registry : DirectiveRegistry) (source : String) (expected : Option FailureKind)
    (handler : Handler) : Except DirectiveForm.Refusal DirectiveRegistry :=
  return registry.add (← DirectiveForm.ofText source expected handler)

/-- The first of some forms that a directive has; the forms stand from a given place on. -/
def resolveFrom (directive : String) (place : Nat) : List DirectiveForm → Option Resolved
  | [] => none
  | form :: rest =>
      match form.pattern.search directive with
      | some found => some { place, form, found }
      | none => resolveFrom directive (place + 1) rest

/-- The form of a directive. -/
def resolve? (registry : DirectiveRegistry) (directive : String) : Option Resolved :=
  resolveFrom directive 0 registry.forms

/-- Carries out a directive. -/
def dispatch (registry : DirectiveRegistry) (scope : Scope) (directive : String)
    (session : Browser.Session) : Dispatched × Browser.Session :=
  match registry.resolve? directive with
  | none => ({ result := .failed directive (.noHandler directive) }, session)
  | some resolved =>
      match resolved.args scope with
      | .error failure => ({ result := .failed directive failure }, session)
      | .ok args =>
          let (ending, next) := (resolved.form.handler args).on session
          ({ result := { name := directive, error := resolved.form.judge ending }
             call := some ⟨resolved.place, args⟩ }, next)

end DirectiveRegistry

end Rehearsal
