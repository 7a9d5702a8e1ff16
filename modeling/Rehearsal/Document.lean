import Rehearsal.Document.Part
import Rehearsal.Task
import Rehearsal.Yaml.Document

/-!
The documents of a suite: a task, or plans. A document is accepted exactly if its parts have the
forms that their keys ask for.
-/

namespace Rehearsal

namespace Document

/-- Reads a step: its name and the list of its directives. -/
def step (number : Nat) (value : Yaml.Value) : Except Fault Step := do
  let (name, content) ← inPlace (.stepNumber number) (singleEntry value)
  match items? content with
  | none => throw (.notDirectives name)
  | some items => return ⟨name, ← inPlace (.stepNamed name) (items.mapM scalar)⟩

/-- Reads steps, numbered from a given number on. -/
def stepsFrom (number : Nat) : List Yaml.Value → Except Fault (List Step)
  | [] => .ok []
  | value :: rest => do
      let first ← step number value
      return first :: (← stepsFrom (number + 1) rest)

/-- The steps of a task. -/
def steps (fields : Fields) : Except Fault (List Step) :=
  match field? fields "steps" with
  | none => .error (.missingKey "steps")
  | some value =>
      match items? value with
      | none => .error .notSteps
      | some items => stepsFrom 1 items

/-- The setup tasks and the prerequisites of a task. -/
def needs (fields : Fields) : Except Fault (List String × List String) :=
  match field? fields "prerequisites" with
  | none => .ok ([], [])
  | some value =>
      match fields? value with
      | none => .error .notPrerequisites
      | some inner =>
          return (← texts inner "setupTasks", ← texts inner "executePrerequisites")

/-- Reads a task. -/
def task (value : Yaml.Value) : Except Fault Task :=
  match fields? value with
  | none => .error .notATask
  | some fields => do
      let name ← requiredText fields "name"
      let description ← (field? fields "description").mapM scalar
      let (setups, prerequisites) ← needs fields
      let frame ← variablesOf fields
      return { name, description, setups, prerequisites, frame, steps := ← steps fields }

/-- Reads a plan. -/
def plan (value : Yaml.Value) : Except Fault Plan :=
  match fields? value with
  | none => .error .notAPlan
  | some fields => do
      let name ← requiredText fields "name"
      let environment ← requiredText fields "environment"
      if (field? fields "tasks").isNone then throw (.missingTasks name)
      let tasks ← texts fields "tasks"
      return { name, environment, tasks,
               frame := ← inPlace (.planNamed name) (variablesOf fields) }

/-- Reads plans, numbered from a given number on. -/
def plansFrom (number : Nat) : List Yaml.Value → Except Fault (List Plan)
  | [] => .ok []
  | value :: rest => do
      let first ← inPlace (.planNumber number) (plan value)
      return first :: (← plansFrom (number + 1) rest)

/-- Reads a list of plans, a single plan, or nothing. -/
def plans : Yaml.Value → Except Fault (List Plan)
  | .sequence items => plansFrom 1 items
  | .mapping fields => return [← plan (.mapping fields)]
  | .null => .ok []
  | _ => .error .notPlans

end Document

/-- The task that a text describes. -/
def Task.ofText (text : String) : Except Document.Fault Task := do
  Document.task (← (Yaml.Value.ofText text).mapError .invalid)

/-- The plans that a text describes. -/
def Plan.listOfText (text : String) : Except Document.Fault (List Plan) := do
  Document.plans (← (Yaml.Value.ofText text).mapError .invalid)

end Rehearsal
