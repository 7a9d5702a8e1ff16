import Rehearsal.Proofs.Dict
import Rehearsal.Proofs.Run.Restoration
/-! How deep tasks are nested. Names are put on a stack as tasks get under way and taken off as they
end; none is put on it twice, so that the nesting comes to an end whatever the tasks require of each
other.
-/

namespace Rehearsal

-----------------------------------------------------------------------------------------
-- Runs that are watched
-----------------------------------------------------------------------------------------

/-- What is seen of the tasks under way. Their names are on a stack, the innermost last. -/
inductive Turn where
  /-- A task has got under way: its name has been put on the stack. -/
  | begun (stack : List String)
  /-- A prerequisite of the innermost task has been seen to, how that ended, and the results that
  have been recorded on the way.
  -/
  | settled (stack : List String) (name : String) (ending : Except Refusal Unit)
    (recorded : List Result)

/-- The names of the tasks that are under way at a turn. -/
def Turn.stack : Turn → List String
  | begun stack => stack
  | settled stack _ _ _ => stack

/-- A stage, beside it the names of the tasks under way, and what has been seen of them. -/
structure WatchedStage where
  stage : Stage
  underWay : List String := []
  turns : List Turn := []

/-- A part of a run that is watched. It comes to no end where tasks are nested more deeply than is
allowed.
-/
abbrev WatchedAct := ExceptT Refusal (StateT WatchedStage Option)

namespace WatchedAct

variable {α β : Type}

/-- What a watched part comes to, and the state after it. -/
def on (part : WatchedAct α) (state : WatchedStage) : Option (Except Refusal α × WatchedStage) :=
  part.run.run state

/-- A part in which no task gets under way. -/
def ofAct (part : List String → Act α) : WatchedAct α :=
  ExceptT.mk fun state =>
    let (ending, stage) := outcome (part state.underWay) state.stage
    some (ending, { state with stage })

/-- Runs the content of a task, within its frame and with its name on the stack. However the content
ends, the frame is left and the name is taken off again.
-/
def nest (task : Task) (content : WatchedAct α) : WatchedAct α :=
  ExceptT.mk fun state => do
    let underWay := state.underWay ++ [task.name]
    let (ending, after) ← content.on
      { stage := { state.stage with scope := state.stage.scope.push task.frame }
        underWay
        turns := state.turns ++ [.begun underWay] }
    return (ending,
      { after with
        stage := { after.stage with scope := after.stage.scope.leave }
        underWay := after.underWay.dropLast })

/-- Sees to a prerequisite and writes down what has come of it. -/
def settle (name : String) (part : WatchedAct Unit) : WatchedAct Unit :=
  ExceptT.mk fun state => do
    let (ending, after) ← part.on state
    let recorded := after.stage.nodes.drop state.stage.nodes.length
    return (ending,
      { after with turns := after.turns ++ [.settled state.underWay name ending recorded] })

variable (context : Context) (nested : Task → WatchedAct Unit)

/-- Runs one prerequisite, or records why it cannot run; what runs a task is given. -/
def runPrerequisite (name : String) : WatchedAct Unit := do
  if (← get).underWay.contains name then
    ofAct fun _ => Act.putNode (.failed name (.prerequisiteCycle name))
  else
    match context.tasks.get? name with
    | none => ofAct fun _ => Act.putNode (.failed name (.unknownTask name))
    | some task => nested task

/-- Sees to prerequisites of the innermost task under way one after another. -/
def runPrerequisites : List String → WatchedAct Unit
  | [] => return ()
  | name :: rest => do
      settle name (runPrerequisite context nested name)
      runPrerequisites rest

/-- Runs a task, with tasks nested in it up to some depth. -/
def runNested : Nat → Task → WatchedAct Unit
  | 0, _ => ExceptT.mk fun _ => none
  | depth + 1, task => do
      ofAct fun _ => Act.announce context Phase.opening (.task task none)
      let children ← nest task do
        runPrerequisites context (runNested depth) task.prerequisites
        ofAct fun stack => do
          Act.note (.stepsBegin task.name)
          let children ← Act.runSteps context stack task.steps
          Act.note (.stepsEnd task.name)
          return children
      let result : Result := { name := task.name, children }
      ofAct fun _ => do
        Act.announce context Phase.closing (.task task (some result))
        Act.putNode result

variable {context nested}

/-- Begun with some tasks on the stack, a watched part comes to an end as another part does that is
told of them, the same tasks are on the stack again, and all turns in between are as said.
-/
def Follows (seen : Turn → Prop) (stack : List String) (watched : WatchedAct α) (act : Act α)
    : Prop :=
  ∀ stage turns,
    ∃ more,
      watched.on ⟨stage, stack, turns⟩
        = some ((outcome act stage).1, ⟨(outcome act stage).2, stack, turns ++ more⟩)
      ∧ ∀ turn ∈ more, seen turn

namespace Follows

variable {seen : Turn → Prop} {stack : List String}

theorem ofAct (part : List String → Act α)
    : Follows seen stack (WatchedAct.ofAct part) (part stack) := by
  intro stage turns
  refine ⟨[], ?_, by simp⟩
  rw [List.append_nil]
  rfl

theorem bind {watched : WatchedAct α} {act : Act α} {next : α → WatchedAct β} {rest : α → Act β}
    (first : Follows seen stack watched act)
    (later : ∀ value, Follows seen stack (next value) (rest value))
    : Follows seen stack (watched >>= next) (act >>= rest) := by
  intro stage turns
  obtain ⟨more, ran, met⟩ := first stage turns
  rw [outcome_bind]
  have sequence
      : (watched >>= next).on ⟨stage, stack, turns⟩
        = (watched.on ⟨stage, stack, turns⟩).bind fun ended =>
            ((ExceptT.bindCont next ended.1).run ended.2) :=
    rfl
  rw [sequence, ran, Option.bind_some]
  cases ended : outcome act stage with
  | mk ending after =>
      cases ending with
      | error refusal => exact ⟨more, rfl, met⟩
      | ok value =>
          obtain ⟨others, ran', met'⟩ := later value after (turns ++ more)
          refine ⟨more ++ others, ?_, List.forall_mem_append.mpr ⟨met, met'⟩⟩
          rw [← List.append_assoc]
          exact ran'

/-- What is put on the stack for a task is taken off again. -/
theorem nest {task : Task} {content : WatchedAct α} {act : Act α}
    (inner : Follows seen (stack ++ [task.name]) content act)
    (begun : seen (.begun (stack ++ [task.name])))
    : Follows seen stack (WatchedAct.nest task content) (Act.within task.frame act) := by
  intro stage turns
  obtain ⟨more, ran, met⟩ := inner { stage with scope := stage.scope.push task.frame }
    (turns ++ [.begun (stack ++ [task.name])])
  refine ⟨.begun (stack ++ [task.name]) :: more, ?_, List.forall_mem_cons.mpr ⟨begun, met⟩⟩
  have nested
      : (WatchedAct.nest task content).on ⟨stage, stack, turns⟩
        = (content.on
            ⟨{ stage with scope := stage.scope.push task.frame }, stack ++ [task.name],
              turns ++ [.begun (stack ++ [task.name])]⟩).bind fun ended =>
          some (ended.1,
            { ended.2 with
              stage := { ended.2.stage with scope := ended.2.stage.scope.leave }
              underWay := ended.2.underWay.dropLast }) :=
    rfl
  rw [nested, ran, Option.bind_some, Act.outcome_within, List.dropLast_concat,
    List.append_assoc, List.singleton_append]

/-- The turn at which a prerequisite has been seen to is told from what the other part does. -/
theorem settle {name : String} {part : WatchedAct Unit} {act : Act Unit}
    (inner : Follows seen stack part act)
    (settled
      : ∀ stage,
          let ended := outcome act stage
          seen (.settled stack name ended.1 (ended.2.nodes.drop stage.nodes.length)))
    : Follows seen stack (WatchedAct.settle name part) act := by
  intro stage turns
  obtain ⟨more, ran, met⟩ := inner stage turns
  refine ⟨more ++ [_], ?_, List.forall_mem_append.mpr ⟨met, List.forall_mem_singleton.mpr
    (settled stage)⟩⟩
  have seenTo
      : (WatchedAct.settle name part).on ⟨stage, stack, turns⟩
        = (part.on ⟨stage, stack, turns⟩).bind fun ended =>
          some (ended.1,
            { ended.2 with
              turns := ended.2.turns
                ++ [.settled stack name ended.1
                  (ended.2.stage.nodes.drop stage.nodes.length)] }) :=
    rfl
  rw [seenTo, ran, Option.bind_some, List.append_assoc]

end Follows

theorem follows_runPrerequisite {seen : Turn → Prop} {stack : List String} {name : String}
    (follows
      : ∀ next,
          name ∉ stack
          → context.tasks.get? name = some next
          → Follows seen stack (nested next) (Act.runNested context stack next))
    : Follows seen stack (runPrerequisite context nested name)
        (Act.runPrerequisite context stack name) := by
  intro stage turns
  -- The stack is looked up at a moment at which the tasks under way are on it.
  have read
      : (runPrerequisite context nested name).on ⟨stage, stack, turns⟩
        = (if stack.contains name then
            ofAct fun _ => Act.putNode (.failed name (.prerequisiteCycle name))
          else
            match context.tasks.get? name with
            | none => ofAct fun _ => Act.putNode (.failed name (.unknownTask name))
            | some task => nested task).on ⟨stage, stack, turns⟩ :=
    rfl
  rw [read, Act.runPrerequisite_eq]
  cases under : stack.contains name with
  | true => exact Follows.ofAct (fun _ => Act.putNode _) stage turns
  | false =>
      cases found : context.tasks.get? name with
      | none => exact Follows.ofAct (fun _ => Act.putNode _) stage turns
      | some next => exact follows next (by simpa using under) found stage turns

end WatchedAct

-----------------------------------------------------------------------------------------
-- The tasks under way
-----------------------------------------------------------------------------------------

/-- The names of tasks under way within a task that need not be registered: each stands on the stack
once, and the others are registered.
-/
structure TaskRegistry.IsStack (registry : TaskRegistry) (root : String) (stack : List String)
    : Prop where
  root : stack.head? = some root
  unrepeated : stack.Nodup
  registered : ∀ name ∈ stack.tail, ∃ task, registry.get? name = some task

namespace TaskRegistry.IsStack

variable {registry : TaskRegistry} {root : String} {stack : List String}

theorem start (registry : TaskRegistry) (root : String) : registry.IsStack root [root] :=
  ⟨rfl, List.nodup_singleton root, by simp⟩

/-- A registered task that is not under way may get under way. -/
theorem push (isStack : registry.IsStack root stack) {name : String} {task : Task}
    (fresh : name ∉ stack) (found : registry.get? name = some task)
    : registry.IsStack root (stack ++ [name]) where
  root := by rw [List.head?_append, isStack.root, Option.some_or]
  unrepeated :=
    List.Nodup.append isStack.unrepeated (List.nodup_singleton name) (by simpa using fresh)
  registered other member := by
    have filled : stack ≠ [] := by
      rintro rfl
      cases isStack.root
    rw [List.tail_append_of_ne_nil filled] at member
    rcases List.mem_append.mp member with before | last
    · exact isStack.registered other before
    · exact ⟨task, List.mem_singleton.mp last ▸ found⟩

/-- Besides the first, there are no more names on a stack than there are registered tasks. -/
theorem length_le (isStack : registry.IsStack root stack) : stack.length ≤ registry.size + 1 := by
  have known : stack.tail.Subset registry.names := by
    intro name member
    obtain ⟨task, found⟩ := isStack.registered name member
    exact (registry.entries.mem_keys_iff name).mpr (Option.isSome_of_eq_some found)
  have bound := (isStack.unrepeated.sublist (List.tail_sublist stack)).length_le_of_subset known
  have names : registry.names.length = registry.size := List.length_map _
  rw [List.length_tail, names] at bound
  omega

end TaskRegistry.IsStack

-----------------------------------------------------------------------------------------
-- Prerequisites that are under way
-----------------------------------------------------------------------------------------

namespace Act

/-- The last result that a task records when it comes to its end is its own, without a failure. -/
theorem exists_own_result {context : Context} {chain : List String} {task : Task}
    {stage after : Stage} (ended : outcome (runNested context chain task) stage = (.ok (), after))
    : ∃ earlier own, after.nodes = earlier ++ [own] ∧ own.error = none := by
  rw [runNested] at ended
  obtain ⟨_, _, _, ended⟩ := exists_of_outcome_bind ended
  obtain ⟨_, _, _, ended⟩ := exists_of_outcome_bind ended
  obtain ⟨_, middle, _, ended⟩ := exists_of_outcome_bind ended
  cases ended
  exact ⟨middle.nodes, _, rfl, rfl⟩

/-- Seeing to a prerequisite comes to a recorded cycle, and to nothing else, exactly if the
prerequisite is under way.
-/
theorem records_cycle_iff (context : Context) (chain : List String) (name : String)
    (stage : Stage)
    : let ended := outcome (runPrerequisite context chain name) stage
      (ended.1 = .ok ()
        ∧ ended.2.nodes.drop stage.nodes.length = [.failed name (.prerequisiteCycle name)])
      ↔ name ∈ chain := by
  intro ended
  have put (node : Result)
      : outcome (putNode node) stage = (.ok (), { stage with nodes := stage.nodes ++ [node] }) :=
    rfl
  simp only [ended]
  rw [runPrerequisite_eq]
  cases under : chain.contains name with
  | true =>
      have member : name ∈ chain := by simpa using under
      simp [put, member]
  | false =>
      have fresh : name ∉ chain := by simpa using under
      refine iff_of_false ?_ fresh
      cases found : context.tasks.get? name with
      | none => simp [put, Result.failed]
      | some next =>
          rintro ⟨passed, recorded⟩
          obtain ⟨-, added, grown⟩ := (keeps context).runNested rfl chain next stage
          have ran
              : outcome (runNested context chain next) stage
                = (.ok (), (outcome (runNested context chain next) stage).2) :=
            Prod.ext passed rfl
          obtain ⟨earlier, own, nodes, unfailed⟩ := exists_own_result ran
          have alone : added = [.failed name (.prerequisiteCycle name)] := by
            rw [← recorded]
            exact grown ▸ List.drop_left.symm
          rw [← grown, alone] at nodes
          obtain ⟨-, same⟩ := List.append_inj' nodes rfl
          cases same
          cases unfailed

end Act

-----------------------------------------------------------------------------------------
-- How tasks are nested
-----------------------------------------------------------------------------------------

/-- What is seen of the tasks under way within a task: they are the tasks of a stack, and a
prerequisite is recorded as a cycle exactly if it is one of them.
-/
structure Turn.IsSound (registry : TaskRegistry) (root : String) (turn : Turn) : Prop where
  isStack : registry.IsStack root turn.stack
  cycle_iff
    : ∀ stack name ending recorded,
        turn = .settled stack name ending recorded
        → ((ending = .ok () ∧ recorded = [.failed name (.prerequisiteCycle name)])
          ↔ name ∈ stack)

theorem Turn.IsSound.begun {registry : TaskRegistry} {root : String} {stack : List String}
    (isStack : registry.IsStack root stack) : (Turn.begun stack).IsSound registry root :=
  ⟨isStack, nofun⟩

namespace WatchedAct

variable {context : Context} {nested : Task → WatchedAct Unit} {root : String}
  {stack : List String}

theorem follows_runPrerequisites (isStack : context.tasks.IsStack root stack) {names : List String}
    (each
      : ∀ name,
          Follows (Turn.IsSound context.tasks root) stack (runPrerequisite context nested name)
            (Act.runPrerequisite context stack name))
    : Follows (Turn.IsSound context.tasks root) stack (runPrerequisites context nested names)
        (Act.runPrerequisites context stack names) := by
  induction names with
  | nil =>
      rw [Act.runPrerequisites]
      exact Follows.ofAct fun _ => pure ()
  | cons name rest ih =>
      rw [Act.runPrerequisites]
      refine Follows.bind (.settle (each name) fun stage => ⟨isStack, ?_⟩) fun _ => ih
      intro _ _ _ _ same
      cases same
      exact Act.records_cycle_iff context stack name stage

/-- A task that is nested in no more others than there are registered ones runs to its end, by
induction on how deeply more can be nested in it: with all registered tasks on the stack there is
none that could get under way.
-/
theorem follows_runNested {depth : Nat} {task : Task}
    (isStack : context.tasks.IsStack root (stack ++ [task.name]))
    (deep : context.tasks.size + 1 ≤ stack.length + depth)
    : Follows (Turn.IsSound context.tasks root) stack (runNested context depth task)
        (Act.runNested context stack task) := by
  induction depth generalizing stack task with
  | zero =>
      have bound := isStack.length_le
      rw [List.length_append, List.length_singleton] at bound
      omega
  | succ depth ih =>
      rw [Act.runNested]
      refine (Follows.ofAct fun _ => Act.announce context Phase.opening _).bind fun _ => ?_
      refine Follows.bind (.nest ?_ (.begun isStack)) fun children =>
        Follows.ofAct fun _ => do
          Act.announce context Phase.closing
            (.task task (some { name := task.name, children }))
          Act.putNode { name := task.name, children }
      refine (follows_runPrerequisites isStack fun name => ?_).bind fun _ =>
        Follows.ofAct fun stack => do
          Act.note (.stepsBegin task.name)
          let children ← Act.runSteps context stack task.steps
          Act.note (.stepsEnd task.name)
          return children
      refine follows_runPrerequisite fun next fresh found => ?_
      have same : next.name = name := TaskRegistry.name_of_get? found
      subst same
      refine ih (isStack.push fresh found) ?_
      rw [List.length_append, List.length_singleton]
      omega

end WatchedAct

/-- Whatever tasks require of each other, no more are nested in each other than are registered, the
task that runs not counted. Run with a stack on which the name of each task is while it is under
way, a task comes to the end that it comes to when it is told of them, and the stack is empty again.
At no time in between has a name been twice on the stack; all but the first, which is the name of
the task itself, are those of registered tasks; and a prerequisite has been recorded as a cycle
exactly if its name was on the stack when it was its turn.
-/
theorem Act.runTask_nests (context : Context) (task : Task) (stage : Stage) (spare : Nat)
    : let ended := outcome (runTask context task) stage
      ∃ turns,
        (WatchedAct.runNested context (context.tasks.size + 1 + spare) task).on { stage }
          = some (ended.1, { stage := ended.2, turns })
        ∧ ∀ turn ∈ turns,
            turn.stack.head? = some task.name
            ∧ turn.stack.Nodup
            ∧ (∀ name ∈ turn.stack.tail, ∃ other, context.tasks.get? name = some other)
            ∧ turn.stack.length ≤ context.tasks.size + 1
            ∧ ∀ stack name ending recorded,
                turn = .settled stack name ending recorded
                → ((ending = .ok () ∧ recorded = [.failed name (.prerequisiteCycle name)])
                  ↔ name ∈ stack) := by
  intro ended
  have follows
      : WatchedAct.Follows (Turn.IsSound context.tasks task.name) []
        (WatchedAct.runNested context (context.tasks.size + 1 + spare) task)
        (Act.runTask context task) :=
    WatchedAct.follows_runNested (.start context.tasks task.name) (by simp)
  obtain ⟨turns, ran, sound⟩ := follows stage []
  refine ⟨turns, ran, fun turn member => ?_⟩
  obtain ⟨isStack, cycle_iff⟩ := sound turn member
  exact ⟨isStack.root, isStack.unrepeated, isStack.registered, isStack.length_le, cycle_iff⟩

/-- Of two tasks that require each other, and one of them itself, each gets under way once. -/
example
    : let login : Task := { name := "login", prerequisites := ["seed", "login"] }
      let seed : Task := { name := "seed", prerequisites := ["login"] }
      let tasks : TaskRegistry :=
        { entries := .ofList [("login", login), ("seed", seed)], named := by decide }
      ((WatchedAct.runNested { tasks } 3 login).on { stage := { session := .launch ∅ } }).map
        (fun ended => ended.2.turns.map Turn.stack)
      = some [["login"], ["login", "seed"], ["login", "seed"], ["login"], ["login"]] := by
  decide +kernel

end Rehearsal
