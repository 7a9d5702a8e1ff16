import Mathlib.Data.List.Basic
import Mathlib.Logic.Relation
import Rehearsal.Run.Task

/-! Prerequisites at any depth. A task is never under way twice, so what holds of a task because
it holds of its prerequisites holds of every task.
-/

namespace Rehearsal.TaskRegistry

/-- A registered task names another one among its prerequisites. -/
def Requires (registry : TaskRegistry) (name needed : String) : Prop :=
  ∃ task, registry.get? name = some task ∧ needed ∈ task.prerequisites

/-- Induction along prerequisites: a task inherits what holds of those of its prerequisites that
get under way after it.
-/
@[elab_as_elim]
theorem prerequisites_induction (registry : TaskRegistry) {motive : List String → Task → Prop}
    (inherits
      : ∀ chain task,
          (∀ name ∈ task.prerequisites,
            ∀ next,
              (chain ++ [task.name]).contains name = false
              → registry.get? name = some next
              → motive (chain ++ [task.name]) next)
          → motive chain task)
    (chain : List String) (task : Task)
    : motive chain task := by
  refine inherits chain task fun name _ next fresh found => ?_
  exact prerequisites_induction registry inherits (chain ++ [task.name]) next
termination_by idleTasks registry (chain ++ [task.name])
decreasing_by exact idleTasks_append_lt found fresh

/-- Goes through the prerequisites of a task and, after them, the task itself. What has to be said
of a prerequisite that cannot run is said in its place. The chain holds the tasks under way, this
one included.
-/
def postorder {β : Type} (registry : TaskRegistry) (refused : String → Failure → List β)
    (own : Task → List β) (chain : List String) (task : Task)
    : List β :=
  task.prerequisites.flatMap (fun name =>
    if _under : chain.contains name then refused name (.prerequisiteCycle name)
    else
      match _found : registry.get? name with
      | none => refused name (.unknownTask name)
      | some next => postorder registry refused own (chain ++ [name]) next)
  ++ own task
termination_by idleTasks registry chain
decreasing_by
  rw [← name_of_get? _found]
  exact idleTasks_append_lt _found (by simpa using _under)

/-- What one prerequisite of the innermost task under way adds. -/
def settle {β : Type} (registry : TaskRegistry) (refused : String → Failure → List β)
    (own : Task → List β) (chain : List String) (name : String)
    : List β :=
  if chain.contains name then refused name (.prerequisiteCycle name)
  else
    match registry.get? name with
    | none => refused name (.unknownTask name)
    | some next => postorder registry refused own (chain ++ [name]) next

variable {β γ : Type} {registry : TaskRegistry} {refused : String → Failure → List β}
  {own : Task → List β}

/-- A task comes after all its prerequisites. -/
theorem postorder_eq (chain : List String) (task : Task)
    : postorder registry refused own chain task
      = task.prerequisites.flatMap (settle registry refused own chain) ++ own task := by
  rw [postorder]
  refine congrArg (fun each => List.flatMap each task.prerequisites ++ own task) ?_
  funext name
  unfold settle
  split
  · rfl
  · split <;> simp_all

theorem settle_of_mem {chain : List String} {name : String} (under : chain.contains name = true)
    : settle registry refused own chain name = refused name (.prerequisiteCycle name) := by
  rw [settle, if_pos under]

theorem settle_of_unknown {chain : List String} {name : String}
    (fresh : chain.contains name = false) (unknown : registry.get? name = none)
    : settle registry refused own chain name = refused name (.unknownTask name) := by
  rw [settle, fresh, unknown]
  rfl

theorem settle_of_registered {chain : List String} {name : String} {next : Task}
    (fresh : chain.contains name = false) (found : registry.get? name = some next)
    : settle registry refused own chain name
      = postorder registry refused own (chain ++ [next.name]) next := by
  rw [settle, fresh, found, name_of_get? found]
  rfl

/-- What is said can be replaced item by item, by induction along the prerequisites. -/
theorem flatMap_postorder (items : β → List γ) (chain : List String) (task : Task)
    : (postorder registry refused own (chain ++ [task.name]) task).flatMap items
      = postorder registry (fun name failure => (refused name failure).flatMap items)
          (fun task => (own task).flatMap items) (chain ++ [task.name]) task := by
  induction chain, task using registry.prerequisites_induction with
  | inherits chain task below =>
    rw [postorder_eq, postorder_eq, List.flatMap_append, List.flatMap_assoc]
    refine congrArg (· ++ _) (List.flatMap_congr fun name member => ?_)
    cases under : (chain ++ [task.name]).contains name with
    | true => rw [settle_of_mem under, settle_of_mem under]
    | false =>
        cases found : registry.get? name with
        | none => rw [settle_of_unknown under found, settle_of_unknown under found]
        | some next =>
            rw [settle_of_registered under found, settle_of_registered under found]
            exact below name member next under found

end Rehearsal.TaskRegistry
