import Rehearsal.Run.Step

/-!
Running a task: within the frame of its variables its prerequisites run first, each in a frame of
its own, and then its steps. A prerequisite that is under way already, or that is not registered,
is recorded as a failure in its place.
-/

namespace Rehearsal

/-- The number of registered tasks that are not under way. -/
def idleTasks (tasks : TaskRegistry) (chain : List String) : Nat :=
  (tasks.names.filter fun name => !chain.contains name).length

theorem length_filter_lt {names : List String} {keep drop : String → Bool} {name : String}
    (member : name ∈ names) (kept : keep name = true) (dropped : drop name = false)
    (fewer : ∀ other, drop other = true → keep other = true)
    : (names.filter drop).length < (names.filter keep).length := by
  have sub (names : List String) : (names.filter drop).length ≤ (names.filter keep).length := by
    simpa only [List.countP_eq_length_filter]
      using List.countP_mono_left fun other _ => fewer other
  induction names with
  | nil => cases member
  | cons head rest ih =>
      rcases List.mem_cons.mp member with h | h
      · subst h
        rw [List.filter_cons_of_neg (by simp [dropped]), List.filter_cons_of_pos kept]
        exact Nat.lt_succ_of_le (sub rest)
      · have step := ih h
        by_cases hd : drop head = true
        · rw [List.filter_cons_of_pos hd, List.filter_cons_of_pos (fewer head hd)]
          exact Nat.succ_lt_succ step
        · rw [List.filter_cons_of_neg hd]
          by_cases hk : keep head = true
          · rw [List.filter_cons_of_pos hk]
            exact Nat.lt_succ_of_lt step
          · rwa [List.filter_cons_of_neg hk]

/-- A registered task that gets under way leaves fewer idle ones. -/
theorem idleTasks_append_lt {tasks : TaskRegistry} {chain : List String} {name : String}
    {task : Task} (found : tasks.get? name = some task) (fresh : chain.contains name = false)
    : idleTasks tasks (chain ++ [task.name]) < idleTasks tasks chain := by
  have same := TaskRegistry.name_of_get? found
  have member : name ∈ tasks.names := by
    obtain ⟨entry, hit, _⟩ := Option.map_eq_some_iff.mp found
    have key : entry.1 = name := by simpa using List.find?_some hit
    exact List.mem_map.mpr ⟨entry, List.mem_of_find?_eq_some hit, key⟩
  exact length_filter_lt member (by simpa using fresh) (by simp [same]) fun other free => by
    simp_all

namespace Act

/-- Runs something within a frame of variables, and leaves the frame however it ends. -/
def within {α : Type} (frame : Variables) (act : Act α) : Act α :=
  ExceptT.mk fun stage =>
    let (ending, after) := act.on { stage with scope := stage.scope.push frame }
    (ending, { after with scope := after.scope.leave })

/-- Records the result of a task. -/
def putNode (node : Result) : Act Unit :=
  modify fun stage => { stage with nodes := stage.nodes ++ [node] }

mutual

/-- Runs a task after its prerequisites and records their results and its own. The chain holds
the tasks under way, without this one. -/
def runNested (context : Context) (chain : List String) (task : Task) : Act Unit := do
  announce context Phase.opening (.task task none)
  let children ← within task.frame do
    runPrerequisites context (chain ++ [task.name]) task.prerequisites
    note (.stepsBegin task.name)
    let children ← runSteps context (chain ++ [task.name]) task.steps
    note (.stepsEnd task.name)
    return children
  let result : Result := { name := task.name, children }
  announce context Phase.closing (.task task (some result))
  putNode result
termination_by (idleTasks context.tasks (chain ++ [task.name]), 2, 0)

/-- Runs one prerequisite of the innermost task under way, or records why it cannot run. -/
def runPrerequisite (context : Context) (chain : List String) (name : String) : Act Unit :=
  if _under : chain.contains name then putNode (.failed name (.prerequisiteCycle name))
  else
    match _found : context.tasks.get? name with
    | none => putNode (.failed name (.unknownTask name))
    | some task => runNested context chain task
termination_by (idleTasks context.tasks chain, 0, 0)
decreasing_by exact Prod.Lex.left _ _ (idleTasks_append_lt _found (by simpa using _under))

/-- Runs prerequisites of the innermost task under way one after another. -/
def runPrerequisites (context : Context) (chain : List String) : List String → Act Unit
  | [] => return ()
  | name :: rest => do
      runPrerequisite context chain name
      runPrerequisites context chain rest
termination_by names => (idleTasks context.tasks chain, 1, names.length)

end

/-- Runs a task. -/
def runTask (context : Context) (task : Task) : Act Unit :=
  runNested context [] task

end Act

end Rehearsal
