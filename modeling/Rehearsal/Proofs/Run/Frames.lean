import Mathlib.Data.List.Chain
import Mathlib.Data.List.Nodup
import Rehearsal.Proofs.Run.Carrying
import Rehearsal.Proofs.Run.Prerequisites

/-! Directives are carried out within the frames of the tasks that are under way, and within no
others: the frame of a task that has ended is gone, however it ended.
-/

namespace Rehearsal

theorem dispatchesOf_append (before after : List Moment)
    : dispatchesOf (before ++ after) = dispatchesOf before ++ dispatchesOf after :=
  List.filterMap_append

theorem dispatchesOf_noticed (notices : List Notice)
    : dispatchesOf (notices.map .noticed) = [] := by
  simp [dispatchesOf]

theorem dispatchesOf_browsed (environment : String) (entries : List Browser.Entry)
    : dispatchesOf (entries.map (.browsed environment)) = [] := by
  simp [dispatchesOf]

/-- Leaving a frame undoes entering it. -/
@[simp]
theorem Scope.leave_push (scope : Scope) (frame : Variables) : (scope.push frame).leave = scope :=
  rfl

-----------------------------------------------------------------------------------------
-- Paths of tasks under way
-----------------------------------------------------------------------------------------

/-- Registered tasks, each but the first a prerequisite of the one before it. -/
structure TaskRegistry.IsPath (registry : TaskRegistry) (path : List Task) : Prop where
  registered : ∀ task ∈ path, registry.get? task.name = some task
  required : path.IsChain fun task next => next.name ∈ task.prerequisites

/-- A path can be followed to a prerequisite of its last task. -/
theorem TaskRegistry.IsPath.snoc {registry : TaskRegistry} {path : List Task} {task next : Task}
    (isPath : registry.IsPath (path ++ [task])) (named : next.name ∈ task.prerequisites)
    (found : registry.get? next.name = some next)
    : registry.IsPath (path ++ [task] ++ [next]) where
  registered other member := by
    rcases List.mem_append.mp member with before | last
    · exact isPath.registered other before
    · exact List.mem_singleton.mp last ▸ found
  required := by
    refine List.isChain_append.mpr ⟨isPath.required, List.isChain_singleton _, ?_⟩
    simpa using named

/-- The scope within the frames of a plan and of tasks under way. -/
def Plan.scopeOf (plan : Plan) (path : List Task) : Scope where
  inner := (path.map Task.frame).reverse
  outermost := plan.frame

theorem Plan.push_scopeOf (plan : Plan) (path : List Task) (task : Task)
    : (plan.scopeOf path).push task.frame = plan.scopeOf (path ++ [task]) := by
  simp [scopeOf, Scope.push]

/-- What is written down of a directive that the last task of a path carries out: the tasks under
way are those of the path, each once, and the frames are that of the plan and theirs, from the
outermost to the innermost.
-/
structure DispatchRecord.IsAtEnd (record : DispatchRecord) (registry : TaskRegistry) (plan : Plan)
    (path : List Task)
    : Prop where
  along : registry.IsPath path
  chain : record.chain = path.map Task.name
  unrepeated : record.chain.Nodup
  frames : record.scope.frames.reverse = plan.frame :: path.map Task.frame
  directive
    : ∃ task ∈ path.getLast?,
        ∃ step ∈ task.steps, record.dispatched.result.name ∈ step.directives

-----------------------------------------------------------------------------------------
-- Within one session
-----------------------------------------------------------------------------------------

namespace Act

variable {context : Context} {α β : Type} {scope : Scope} {goal : DispatchRecord → Prop}

/-- Begun in a scope, a part ends in it, however it ends, and what it writes down of directives is
as said.
-/
def DispatchesIn (scope : Scope) (goal : DispatchRecord → Prop) (act : Act α) : Prop :=
  ∀ stage,
    stage.scope = scope
    → (outcome act stage).2.scope = scope
      ∧ ∃ moments,
          (outcome act stage).2.chronicle = stage.chronicle ++ moments
          ∧ ∀ record ∈ dispatchesOf moments, goal record

namespace DispatchesIn

/-- A part that carries out no directive. -/
theorem of_quiet {act : Act α}
    (quiet
      : ∀ stage,
          (outcome act stage).2.scope = stage.scope
          ∧ ∃ moments,
              (outcome act stage).2.chronicle = stage.chronicle ++ moments
              ∧ dispatchesOf moments = [])
    : DispatchesIn scope goal act := by
  intro stage begun
  obtain ⟨same, moments, grown, none⟩ := quiet stage
  exact ⟨same.trans begun, moments, grown, by simp [none]⟩

theorem pure (value : α) : DispatchesIn scope goal (Pure.pure value) :=
  of_quiet fun _ => ⟨rfl, [], (List.append_nil _).symm, rfl⟩

theorem bind {act : Act α} {next : α → Act β} (first : DispatchesIn scope goal act)
    (rest : ∀ value, DispatchesIn scope goal (next value))
    : DispatchesIn scope goal (act >>= next) := by
  intro stage begun
  obtain ⟨same, moments, grown, met⟩ := first stage begun
  rw [outcome_bind]
  cases ended : outcome act stage with
  | mk ending middle =>
      rw [ended] at same grown
      cases ending with
      | error refusal => exact ⟨same, moments, grown, met⟩
      | ok value =>
          obtain ⟨same', more, grown', met'⟩ := rest value middle same
          refine ⟨same', moments ++ more, ?_, ?_⟩
          · rw [grown', grown, List.append_assoc]
          · rw [dispatchesOf_append]
            exact List.forall_mem_append.mpr ⟨met, met'⟩

/-- The scope that a part begins in is entered and left with the frame that it is for. -/
theorem within {act : Act α} {frame : Variables}
    (inner : DispatchesIn (scope.push frame) goal act)
    : DispatchesIn scope goal (Act.within frame act) := by
  intro stage begun
  obtain ⟨same, moments, grown, met⟩ :=
    inner { stage with scope := stage.scope.push frame } (by rw [begun])
  refine ⟨?_, moments, grown, met⟩
  change (outcome act { stage with scope := stage.scope.push frame }).2.scope.leave = scope
  rw [same, Scope.leave_push]

end DispatchesIn

theorem dispatchesIn_announce (phases : List Phase) (event : Event)
    : DispatchesIn scope goal (announce context phases event) :=
  .of_quiet fun stage => by
    rw [outcome_announce]
    exact ⟨rfl, _, rfl, dispatchesOf_noticed _⟩

theorem dispatchesIn_stepsBegin (task : String)
    : DispatchesIn scope goal (note (.stepsBegin task)) :=
  .of_quiet fun _ => ⟨rfl, [.stepsBegin task], rfl, rfl⟩

theorem dispatchesIn_stepsEnd (task : String)
    : DispatchesIn scope goal (note (.stepsEnd task)) :=
  .of_quiet fun _ => ⟨rfl, [.stepsEnd task], rfl, rfl⟩

theorem dispatchesIn_putNode (node : Result) : DispatchesIn scope goal (putNode node) :=
  .of_quiet fun _ => ⟨rfl, [], (List.append_nil _).symm, rfl⟩

theorem dispatchesIn_runDirective {chain : List String} {directive : String}
    (met
      : ∀ dispatched : Dispatched,
          dispatched.result.name = directive → goal ⟨chain, scope, dispatched⟩)
    : DispatchesIn scope goal (runDirective context chain directive) := by
  refine (dispatchesIn_announce _ _).bind fun _ => ?_
  refine .bind ?_ fun result => (dispatchesIn_announce _ _).bind fun _ => .pure result
  intro stage begun
  rw [outcome_dispatch]
  refine ⟨begun, _, List.append_assoc _ _ _, ?_⟩
  rw [dispatchesOf_append, dispatchesOf_browsed, List.append_nil]
  intro record member
  rw [List.mem_singleton.mp member, begun]
  exact met _ (context.directives.name_dispatch _ _ _)

theorem dispatchesIn_runDirectives {chain directives : List String}
    (met
      : ∀ dispatched : Dispatched,
          dispatched.result.name ∈ directives → goal ⟨chain, scope, dispatched⟩)
    : DispatchesIn scope goal (runDirectives context chain directives) := by
  induction directives with
  | nil => exact .pure _
  | cons directive rest ih =>
      refine (dispatchesIn_runDirective ?_).bind fun result => ?_
      · exact fun dispatched named => met dispatched (named ▸ List.mem_cons_self)
      · cases abortion? result with
        | some failure => exact .pure _
        | none =>
            refine (ih fun dispatched member => ?_).bind fun _ => .pure _
            exact met dispatched (List.mem_cons_of_mem _ member)

theorem dispatchesIn_runSteps {chain : List String} {steps : List Step}
    (met
      : ∀ step ∈ steps, ∀ dispatched : Dispatched,
          dispatched.result.name ∈ step.directives → goal ⟨chain, scope, dispatched⟩)
    : DispatchesIn scope goal (runSteps context chain steps) := by
  induction steps with
  | nil => exact .pure _
  | cons step rest ih =>
      obtain ⟨head, tail⟩ := List.forall_mem_cons.mp met
      have first : DispatchesIn scope goal (runStep context chain step) :=
        (dispatchesIn_announce _ _).bind fun _ =>
          (dispatchesIn_runDirectives head).bind fun _ =>
            (dispatchesIn_announce _ _).bind fun _ => .pure _
      exact first.bind fun _ => (ih tail).bind fun _ => .pure _

theorem dispatchesIn_runPrerequisites {chain names : List String}
    (each : ∀ name ∈ names, DispatchesIn scope goal (runPrerequisite context chain name))
    : DispatchesIn scope goal (runPrerequisites context chain names) := by
  induction names with
  | nil =>
      rw [runPrerequisites]
      exact .pure _
  | cons name rest ih =>
      obtain ⟨head, tail⟩ := List.forall_mem_cons.mp each
      rw [runPrerequisites]
      exact head.bind fun _ => ih tail

/-- A task at the end of a path carries out its directives there, and its prerequisites carry out
theirs at the ends of longer paths, by induction along the prerequisites.
-/
theorem dispatchesIn_runNested {context : Context} (plan : Plan) {root : String}
    {chain : List String} {task : Task} {path : List Task}
    (names : path.map Task.name = chain) (rooted : (chain ++ [task.name]).head? = some root)
    (isPath : context.tasks.IsPath (path ++ [task])) (unrepeated : (chain ++ [task.name]).Nodup)
    : DispatchesIn (plan.scopeOf path)
        (fun record =>
          record.chain.head? = some root ∧ ∃ path, record.IsAtEnd context.tasks plan path)
        (runNested context chain task) := by
  induction chain, task using context.tasks.prerequisites_induction generalizing path with
  | inherits chain task below =>
    have whole : (path ++ [task]).map Task.name = chain ++ [task.name] := by simp [names]
    rw [runNested]
    refine (dispatchesIn_announce _ _).bind fun _ => .bind (.within ?_) fun _ =>
      (dispatchesIn_announce _ _).bind fun _ => dispatchesIn_putNode _
    rw [plan.push_scopeOf]
    refine .bind (dispatchesIn_runPrerequisites fun name member => ?_) fun _ =>
      (dispatchesIn_stepsBegin _).bind fun _ => .bind (dispatchesIn_runSteps ?_) fun _ =>
        (dispatchesIn_stepsEnd _).bind fun _ => .pure _
    · rw [runPrerequisite_eq]
      cases under : (chain ++ [task.name]).contains name with
      | true => exact dispatchesIn_putNode _
      | false =>
          simp only [Bool.false_eq_true, ↓reduceIte]
          cases found : context.tasks.get? name with
          | none => exact dispatchesIn_putNode _
          | some next =>
              have same : next.name = name := TaskRegistry.name_of_get? found
              subst same
              have fresh : next.name ∉ chain ++ [task.name] := by simpa using under
              have longer : (chain ++ [task.name] ++ [next.name]).Nodup :=
                List.Nodup.append unrepeated (by simp) (by simpa using fresh)
              have start : (chain ++ [task.name] ++ [next.name]).head? = some root := by
                rw [List.head?_append, rooted, Option.some_or]
              exact below _ member next under found whole start (isPath.snoc member found) longer
    · intro step member dispatched named
      exact ⟨rooted, path ++ [task], isPath, whole.symm, unrepeated,
        by simp [Plan.scopeOf, Scope.frames], task, by simp, step, member, named⟩

end Act

-----------------------------------------------------------------------------------------
-- A plan and its sessions
-----------------------------------------------------------------------------------------

namespace Run

variable {context : Context} {plan : Plan} {α β : Type} {goal : DispatchRecord → Prop}

/-- What a part of a run writes down of directives is as said, however it ends. -/
def Dispatches (goal : DispatchRecord → Prop) (part : RunM α) : Prop :=
  Moves
    (fun before after =>
      ∃ moments,
        after.chronicle = before.chronicle ++ moments
        ∧ ∀ record ∈ dispatchesOf moments, goal record)
    part

namespace Dispatches

theorem pure (value : α) : Dispatches goal (Pure.pure value) :=
  fun _ => ⟨[], (List.append_nil _).symm, by simp [dispatchesOf]⟩

theorem mono {part : RunM α} {goal' : DispatchRecord → Prop} (dispatches : Dispatches goal part)
    (weaker : ∀ record, goal record → goal' record)
    : Dispatches goal' part := by
  intro log
  obtain ⟨moments, grown, met⟩ := dispatches log
  exact ⟨moments, grown, fun record member => weaker record (met record member)⟩

theorem bind {part : RunM α} {next : α → RunM β} (first : Dispatches goal part)
    (rest : ∀ value, Dispatches goal (next value))
    : Dispatches goal (part >>= next) := by
  refine Moves.bind ?_ first rest
  rintro before middle after ⟨moments, grown, met⟩ ⟨more, grown', met'⟩
  refine ⟨moments ++ more, ?_, ?_⟩
  · rw [grown', grown, List.append_assoc]
  · rw [dispatchesOf_append]
    exact List.forall_mem_append.mpr ⟨met, met'⟩

end Dispatches

theorem dispatches_announce (phases : List Phase) (event : Event)
    : Dispatches goal (announce context phases event) := by
  intro log
  rw [outcome_announce]
  exact ⟨_, rfl, by simp [dispatchesOf_noticed]⟩

/-- Between the launch and the close of a session, what is written down is as in the scope in which
the session begins.
-/
theorem dispatches_inSession {act : Act Unit} {scope : Scope}
    (inner : act.DispatchesIn scope goal) (environment : String) (pages : Browser.Site)
    : Dispatches goal (inSession environment (.launch pages) scope act) := by
  intro log
  obtain ⟨_, moments, grown, met⟩ := inner (log.stage environment pages scope) rfl
  rw [outcome_inSession_eq]
  simp only [grown, log.chronicle_stage, List.append_assoc]
  refine ⟨_, rfl, ?_⟩
  rw [dispatchesOf_append, dispatchesOf_append, dispatchesOf_browsed, List.append_nil]
  exact met

theorem dispatches_runTask (context : Context) (plan : Plan) (name : String)
    : Dispatches
        (fun record =>
          record.chain.head? = some name ∧ ∃ path, record.IsAtEnd context.tasks plan path)
        (runTask context plan name) := by
  unfold runTask
  cases found : context.tasks.get? name with
  | none => exact .pure _
  | some task =>
      have same : task.name = name := TaskRegistry.name_of_get? found
      subst same
      cases launched : context.launch plan.environment with
      | error failure => exact .pure _
      | ok session =>
          obtain ⟨pages, rfl⟩ := Context.exists_site_of_launch launched
          have none : ([] : List Task).map Task.name = [] := rfl
          have alone : context.tasks.IsPath ([] ++ [task]) := ⟨by simpa using found, .singleton _⟩
          have nested := Act.dispatchesIn_runNested plan none rfl alone (by simp)
          exact dispatches_inSession nested _ _

theorem dispatches_runTasks (context : Context) (plan : Plan) (names : List String)
    : Dispatches
        (fun record =>
          (∃ name ∈ names, record.chain.head? = some name)
          ∧ ∃ path, record.IsAtEnd context.tasks plan path)
        (runTasks context plan names) := by
  induction names with
  | nil => exact .pure _
  | cons name rest ih =>
      refine .bind ((dispatches_runTask context plan name).mono ?_) fun nodes =>
        .bind (ih.mono ?_) fun others => .pure _
      · exact fun record met => ⟨⟨name, List.mem_cons_self, met.1⟩, met.2⟩
      · rintro record ⟨⟨later, member, started⟩, met⟩
        exact ⟨⟨later, List.mem_cons_of_mem _ member, started⟩, met⟩

/-- In the run of a plan, however it ends, directives are carried out in sessions one after another,
each where it is written down and in the scope that is written down with it. A directive is carried
out by a task at the end of a path of prerequisites that starts from a task in the order of the
plan. The tasks under way are those of the path, each once, and the frames are that of the plan and
theirs: no frame of a task that has ended is left among them.
-/
theorem dispatched_within_frames (context : Context) (plan : Plan) (log : RunLog)
    : ∃ moments sessions,
        (outcome (runPlan context plan) log).2.chronicle = log.chronicle ++ moments
        ∧ (outcome (runPlan context plan) log).2.sessions = log.sessions ++ sessions
        ∧ context.Carries plan.environment moments sessions
        ∧ ∀ record ∈ dispatchesOf moments,
            (∃ name ∈ order context plan, record.chain.head? = some name)
            ∧ ∃ path, record.IsAtEnd context.tasks plan path := by
  have dispatches
      : Dispatches
          (fun record =>
            (∃ name ∈ order context plan, record.chain.head? = some name)
            ∧ ∃ path, record.IsAtEnd context.tasks plan path)
          (runPlan context plan) := by
    refine (dispatches_announce _ _).bind fun _ => ?_
    refine (dispatches_runTasks context plan _).bind fun children => ?_
    exact (dispatches_announce _ _).bind fun _ => .pure _
  obtain ⟨moments, sessions, grown, ended, carries⟩ := leadsBy_runPlan context plan log
  obtain ⟨_, grown', met⟩ := dispatches log
  cases List.append_cancel_left (grown'.symm.trans grown)
  exact ⟨moments, sessions, grown, ended, carries, met⟩

end Run

end Rehearsal
