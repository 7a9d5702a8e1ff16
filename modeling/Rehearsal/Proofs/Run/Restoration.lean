import Rehearsal.Proofs.Run.Frames

/-! What a task was given is found again when it has ended, however it has ended: the frames of the
scope, the results recorded before, and the list of the tasks under way.
-/

namespace Rehearsal

-----------------------------------------------------------------------------------------
-- The scope and the recorded results
-----------------------------------------------------------------------------------------

/-- A later stage in the scope of an earlier one. What was recorded before is still there, ahead of
what has been recorded since.
-/
structure Stage.Keeps (before after : Stage) : Prop where
  scope : after.scope = before.scope
  nodes : before.nodes <+: after.nodes

namespace Stage.Keeps

theorem refl (stage : Stage) : stage.Keeps stage :=
  ⟨rfl, List.prefix_rfl⟩

theorem trans {first second third : Stage} (left : first.Keeps second)
    (right : second.Keeps third)
    : first.Keeps third :=
  ⟨right.scope.trans left.scope, left.nodes.trans right.nodes⟩

end Stage.Keeps

/-- Every part within a session keeps what it was given, also where a callback has refused to go on
within it.
-/
theorem Act.keeps (context : Context)
    : Congruence context context fun act _ => Moves Stage.Keeps act where
  pure _ := fun stage => .refl stage
  bind first rest := Moves.bind .trans first rest
  announce phases event := by
    intro stage
    rw [outcome_announce]
    exact ⟨rfl, List.prefix_rfl⟩
  dispatch chain directive := by
    intro stage
    rw [outcome_dispatch]
    exact ⟨rfl, List.prefix_rfl⟩
  stepsBegin _ := fun _ => ⟨rfl, List.prefix_rfl⟩
  stepsEnd _ := fun _ => ⟨rfl, List.prefix_rfl⟩
  within frame moves := by
    intro stage
    obtain ⟨scope, nodes⟩ := moves { stage with scope := stage.scope.push frame }
    rw [outcome_within]
    exact ⟨(congrArg Scope.leave scope).trans (Scope.leave_push _ _), nodes⟩
  putNode _ := fun _ => ⟨rfl, List.prefix_append _ _⟩

-----------------------------------------------------------------------------------------
-- The tasks under way, kept on a stack
-----------------------------------------------------------------------------------------

/-- A stage and, beside it, the names of the tasks under way, the innermost last. -/
structure StackStage where
  stage : Stage
  underWay : List String

/-- A part of a run that is not told the tasks under way, but looks them up on the stack and changes
the stack. It comes to no end where tasks are nested more deeply than is allowed.
-/
abbrev StackAct := StateT StackStage Option

namespace StackAct

variable {α β : Type} {chain : List String}

/-- A part that looks up the tasks under way and leaves the stack alone. -/
def ofAct (part : List String → Act α) : StackAct (Except Refusal α) :=
  fun state =>
    let (ending, stage) := outcome (part state.underWay) state.stage
    some (ending, { state with stage })

/-- A task gets under way, in its frame. -/
def enter (task : Task) : StackAct Unit :=
  modify fun state =>
    { stage := { state.stage with scope := state.stage.scope.push task.frame }
      underWay := state.underWay ++ [task.name] }

/-- The innermost task and its frame are left. -/
def leave : StackAct Unit :=
  modify fun state =>
    { stage := { state.stage with scope := state.stage.scope.leave }
      underWay := state.underWay.dropLast }

variable (context : Context) (nested : Task → StackAct (Except Refusal Unit))

/-- Runs one prerequisite, or records why it cannot run; what runs a task is given. -/
def runPrerequisite (name : String) : StackAct (Except Refusal Unit) := do
  let state ← get
  if state.underWay.contains name then
    ofAct fun _ => Act.putNode (.failed name (.prerequisiteCycle name))
  else
    match context.tasks.get? name with
    | none => ofAct fun _ => Act.putNode (.failed name (.unknownTask name))
    | some task => nested task

/-- Runs prerequisites of the innermost task under way one after another. -/
def runPrerequisites : List String → StackAct (Except Refusal Unit)
  | [] => return .ok ()
  | name :: rest => do
      match ← runPrerequisite context nested name with
      | .error refusal => return .error refusal
      | .ok _ => runPrerequisites rest

/-- Runs the prerequisites and then the steps of the innermost task under way. -/
def runContent (task : Task) : StackAct (Except Refusal (List Result)) := do
  match ← runPrerequisites context nested task.prerequisites with
  | .error refusal => return .error refusal
  | .ok _ =>
      ofAct fun chain => do
        Act.note (.stepsBegin task.name)
        let children ← Act.runSteps context chain task.steps
        Act.note (.stepsEnd task.name)
        return children

/-- Runs a task, which is on the stack while its content runs, with tasks nested in it up to some
depth.
-/
def runNested : Nat → Task → StackAct (Except Refusal Unit)
  | 0, _ => failure
  | depth + 1, task => do
      match ← ofAct fun _ => Act.announce context Phase.opening (.task task none) with
      | .error refusal => return .error refusal
      | .ok _ =>
          enter task
          let ran ← runContent context (runNested depth) task
          leave
          match ran with
          | .error refusal => return .error refusal
          | .ok children =>
              let result : Result := { name := task.name, children }
              ofAct fun _ => do
                Act.announce context Phase.closing (.task task (some result))
                Act.putNode result

variable {context nested}

/-- Begun with some tasks on the stack, a part comes to an end as another part does that is told of
them, and the same tasks are on the stack again.
-/
def Follows (chain : List String) (stacked : StackAct (Except Refusal α)) (act : Act α) : Prop :=
  ∀ stage,
    stacked.run ⟨stage, chain⟩ = some ((outcome act stage).1, ⟨(outcome act stage).2, chain⟩)

namespace Follows

theorem ofAct (part : List String → Act α) : Follows chain (StackAct.ofAct part) (part chain) :=
  fun _ => rfl

/-- A sequence follows another if their parts do, and a refusal is passed on. -/
theorem bind {stacked : StackAct (Except Refusal α)} {act : Act α}
    {next : Except Refusal α → StackAct (Except Refusal β)} {rest : α → Act β}
    (first : Follows chain stacked act)
    (refused : ∀ refusal, next (.error refusal) = Pure.pure (.error refusal))
    (later : ∀ value, Follows chain (next (.ok value)) (rest value))
    : Follows chain (stacked >>= next) (act >>= rest) := by
  intro stage
  rw [StateT.run_bind, first stage, outcome_bind]
  cases ended : outcome act stage with
  | mk ending after =>
      cases ending with
      | error refusal => exact congrArg (StateT.run · _) (refused refusal)
      | ok value => exact later value after

/-- What is put on the stack for a task is taken off again, whether or not its content is cut short
by a refusal.
-/
theorem within {task : Task} {stacked : StackAct (Except Refusal α)} {act : Act α}
    {next : Except Refusal α → StackAct (Except Refusal β)} {rest : α → Act β}
    (content : Follows (chain ++ [task.name]) stacked act)
    (refused : ∀ refusal, next (.error refusal) = Pure.pure (.error refusal))
    (later : ∀ value, Follows chain (next (.ok value)) (rest value))
    : Follows chain
        (do
          enter task
          let ran ← stacked
          leave
          next ran)
        (Act.within task.frame act >>= rest) := by
  have left
      : Follows chain
          (do
            enter task
            let ran ← stacked
            leave
            return ran)
          (Act.within task.frame act) := by
    intro stage
    have ran := content { stage with scope := stage.scope.push task.frame }
    simp only [enter, leave, StateT.run_bind, StateT.run_modify, ran, StateT.run_pure,
      Option.pure_def, Option.bind_eq_bind, Option.bind_some, List.dropLast_concat]
    rfl
  simpa only [bind_assoc, pure_bind] using left.bind refused later

end Follows

theorem follows_runPrerequisite {name : String}
    (follows
      : ∀ next,
          chain.contains name = false
          → context.tasks.get? name = some next
          → Follows chain (nested next) (Act.runNested context chain next))
    : Follows chain (runPrerequisite context nested name)
        (Act.runPrerequisite context chain name) := by
  intro stage
  -- The stack is looked up at a moment at which the chain is on it.
  have read
      : (runPrerequisite context nested name).run ⟨stage, chain⟩
        = (if chain.contains name then
            ofAct fun _ => Act.putNode (.failed name (.prerequisiteCycle name))
          else
            match context.tasks.get? name with
            | none => ofAct fun _ => Act.putNode (.failed name (.unknownTask name))
            | some task => nested task).run ⟨stage, chain⟩ :=
    rfl
  rw [read, Act.runPrerequisite_eq]
  cases under : chain.contains name with
  | true => rfl
  | false =>
      cases found : context.tasks.get? name with
      | none => rfl
      | some next => exact follows next under found stage

theorem follows_runPrerequisites {names : List String}
    (each
      : ∀ name ∈ names,
          Follows chain (runPrerequisite context nested name)
            (Act.runPrerequisite context chain name))
    : Follows chain (runPrerequisites context nested names)
        (Act.runPrerequisites context chain names) := by
  induction names with
  | nil =>
      rw [Act.runPrerequisites]
      exact fun _ => rfl
  | cons name rest ih =>
      obtain ⟨head, tail⟩ := List.forall_mem_cons.mp each
      rw [Act.runPrerequisites]
      exact head.bind (fun _ => rfl) fun _ => ih tail

/-- With the stack, a task runs as it does when it is told the tasks under way, by induction along
the prerequisites. No deeper nesting is needed than there are registered tasks that are idle.
-/
theorem follows_runNested {task : Task} {depth : Nat}
    (deep : idleTasks context.tasks (chain ++ [task.name]) < depth)
    : Follows chain (runNested context depth task) (Act.runNested context chain task) := by
  induction chain, task using context.tasks.prerequisites_induction generalizing depth with
  | inherits chain task below =>
    obtain ⟨depth, rfl⟩ := Nat.exists_eq_add_one_of_ne_zero (Nat.ne_zero_of_lt deep)
    rw [Act.runNested]
    refine (Follows.ofAct _).bind (fun _ => rfl) fun _ => ?_
    refine .within ?_ (fun _ => rfl) fun children => .ofAct _
    refine (follows_runPrerequisites fun name member => ?_).bind (fun _ => rfl) fun _ => .ofAct _
    refine follows_runPrerequisite fun next under found => ?_
    exact below name member next under found
      (Nat.lt_of_lt_of_le (idleTasks_append_lt found under) (Nat.lt_succ_iff.mp deep))

end StackAct

/-- However a task ends, at whatever announcement a callback may refuse to go on, it leaves the
scope that it was given, frame by frame, and it adds its results behind those recorded before. The
same holds of every task that runs within it, with any tasks under way: run with a stack of these,
on which each task is put and from which it is taken again, it comes to the same end, and the stack
is the one that it was given. Tasks are never nested more deeply than idle ones are registered.
-/
theorem Act.runTask_restores (context : Context) (task : Task) (stage : Stage)
    : let after := (outcome (runTask context task) stage).2
      (after.scope = stage.scope ∧ ∃ added, after.nodes = stage.nodes ++ added)
      ∧ ∀ (chain : List String) (nested : Task) (begun : Stage) (spare : Nat),
          let ended := outcome (runNested context chain nested) begun
          let depth := idleTasks context.tasks (chain ++ [nested.name]) + 1 + spare
          ended.2.scope = begun.scope
          ∧ (∃ added, ended.2.nodes = begun.nodes ++ added)
          ∧ (StackAct.runNested context depth nested).run ⟨begun, chain⟩
            = some (ended.1, ⟨ended.2, chain⟩) := by
  have each (chain : List String) (nested : Task)
      : Moves Stage.Keeps (runNested context chain nested) :=
    (keeps context).runNested rfl chain nested
  constructor
  · obtain ⟨scope, added, grown⟩ := each [] task stage
    exact ⟨scope, added, grown.symm⟩
  · intro chain nested begun spare ended depth
    obtain ⟨scope, added, grown⟩ := each chain nested begun
    have deep : idleTasks context.tasks (chain ++ [nested.name]) < depth :=
      Nat.lt_of_lt_of_le (Nat.lt_succ_self _) (Nat.le_add_right _ _)
    exact ⟨scope, ⟨added, grown.symm⟩, StackAct.follows_runNested deep begun⟩

end Rehearsal
