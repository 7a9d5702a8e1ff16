import Rehearsal.Task

/-!
The tasks of a suite under their names. Every task is found under its own name, and a name is
taken once.
-/

namespace Rehearsal

/-- A registration under a name that is taken. -/
structure DuplicateTask where
  name : String
deriving DecidableEq, Repr

/-- The wording of a refused registration. -/
def DuplicateTask.message (duplicate : DuplicateTask) : String :=
  "duplicate task name '" ++ duplicate.name ++ "'"

/-- Tasks under their names. -/
structure TaskRegistry where
  entries : Dict Task := ∅
  /-- Each task stands under its own name. -/
  named : ∀ entry ∈ entries.bindings, entry.2.name = entry.1 := by
    intro _ member
    cases member

namespace TaskRegistry

instance : EmptyCollection TaskRegistry := ⟨{}⟩

instance : Inhabited TaskRegistry := ⟨∅⟩

/-- The task with a name. -/
def get? (registry : TaskRegistry) (name : String) : Option Task :=
  registry.entries.get? name

/-- A task that is found bears the name under which it is found. -/
theorem name_of_get? {registry : TaskRegistry} {name : String} {task : Task}
    (found : registry.get? name = some task)
    : task.name = name := by
  obtain ⟨entry, hit, rfl⟩ := Option.map_eq_some_iff.mp found
  have key : entry.1 = name := by simpa using List.find?_some hit
  exact (registry.named entry (List.mem_of_find?_eq_some hit)).trans key

/-- Adds a task, unless its name is taken. -/
def register (registry : TaskRegistry) (task : Task) : Except DuplicateTask TaskRegistry :=
  if registry.entries.contains task.name then .error ⟨task.name⟩
  else
    .ok
      { entries := registry.entries.insert task.name task
        named := by
          intro entry member
          rcases mem_insertBinding member with h | h
          · exact h ▸ rfl
          · exact registry.named entry h }

/-- The names of the tasks, in increasing order. -/
def names (registry : TaskRegistry) : List String :=
  registry.entries.keys

/-- The tasks, in the order of their names. -/
def tasks (registry : TaskRegistry) : List Task :=
  registry.entries.values

/-- The number of tasks. -/
def size (registry : TaskRegistry) : Nat :=
  registry.entries.size

/-- The setup tasks of every task. -/
def setups (registry : TaskRegistry) : Dict (List String) :=
  registry.entries.mapValues fun _ task => task.setups

end TaskRegistry

end Rehearsal
