import Rehearsal.Variables

/-!
What a suite consists of: steps of directives, tasks of steps, and plans that run tasks in one
environment.
-/

namespace Rehearsal

/-- A named list of directives. -/
structure Step where
  name : String
  directives : List String := []
deriving DecidableEq

/-- A named list of steps, with the tasks that it needs. -/
structure Task where
  /-- The name under which other tasks and plans refer to it. -/
  name : String
  description : Option String := none
  /-- The tasks that run once, before the first task that needs them. -/
  setups : List String := []
  /-- The tasks that run every time, immediately before this one. -/
  prerequisites : List String := []
  frame : Variables := ∅
  steps : List Step := []
deriving DecidableEq

/-- A named list of tasks for one environment. -/
structure Plan where
  name : String
  /-- The environment, in any letter case. -/
  environment : String
  tasks : List String := []
  /-- The outermost frame of every task of the plan. -/
  frame : Variables := ∅
deriving DecidableEq

end Rehearsal
