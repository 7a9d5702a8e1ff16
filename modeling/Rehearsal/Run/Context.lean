import Rehearsal.Directive.Registry
import Rehearsal.Lifecycle
import Rehearsal.Task.Registry
import Rehearsal.Text.LetterCase

/-!
Everything that a run reads: the known directives, the callbacks, the tasks and the environments.
-/

namespace Rehearsal

/-- An environment in which sessions can be launched. -/
inductive Environment where
  /-- Every session shows the site anew. -/
  | site (pages : Browser.Site)
  /-- No session can be launched. -/
  | unavailable (failure : Failure)

/-- Launches a session. -/
def Environment.launch : Environment → Except Failure Browser.Session
  | site pages => .ok (.launch pages)
  | unavailable failure => .error failure

/-- What a run reads. -/
structure Context where
  directives : DirectiveRegistry := ∅
  /-- The callbacks, in the order of their registration. -/
  callbacks : List Callback := []
  tasks : TaskRegistry := ∅
  /-- The environments under their names in small letters. -/
  environments : Dict Environment := ∅

namespace Context

/-- The key of an environment; letter case does not count. -/
def environmentKey (name : String) : String :=
  Text.lowercase name

/-- Adds an environment, in place of one with the same name. -/
def addEnvironment (context : Context) (name : String) (environment : Environment) : Context :=
  { context with environments := context.environments.insert (environmentKey name) environment }

/-- Launches a session in an environment. -/
def launch (context : Context) (name : String) : Except Failure Browser.Session :=
  match context.environments.get? (environmentKey name) with
  | some environment => environment.launch
  | none => .error (.unknownEnvironment name)

end Context

end Rehearsal
