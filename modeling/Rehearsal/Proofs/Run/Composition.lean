import Rehearsal.Proofs.Outcome
import Rehearsal.Proofs.Run.Prerequisites

/-! Runs are put together from few kinds of parts. A relation between parts of two runs that holds
of these parts, and that putting parts together keeps, holds of the two runs as a whole. With the
same run on both sides this is induction on the parts of one run.
-/

namespace Rehearsal

-----------------------------------------------------------------------------------------
-- Parts within one session
-----------------------------------------------------------------------------------------

namespace Act

/-- A prerequisite is recorded as a failure if it is under way or unknown, and runs otherwise. -/
theorem runPrerequisite_eq (context : Context) (chain : List String) (name : String)
    : runPrerequisite context chain name
      = if chain.contains name then putNode (.failed name (.prerequisiteCycle name))
        else
          match context.tasks.get? name with
          | none => putNode (.failed name (.unknownTask name))
          | some task => runNested context chain task := by
  rw [runPrerequisite]
  by_cases under : chain.contains name
  · simp only [under, ↓reduceDIte, ↓reduceIte]
  · simp only [under, Bool.false_eq_true, ↓reduceDIte, ↓reduceIte]
    split <;> simp_all

/-- A frame of variables is left after the part that it is for, however that ends. -/
theorem outcome_within {α : Type} (frame : Variables) (act : Act α) (stage : Stage)
    : outcome (within frame act) stage
      = let ended := outcome act { stage with scope := stage.scope.push frame }
        (ended.1, { ended.2 with scope := ended.2.scope.leave }) :=
  rfl

/-- A relation between parts within sessions of runs in two contexts that the parts satisfy and
that putting them together keeps.
-/
structure Congruence (first second : Context)
    (related : ∀ {α : Type}, Act α → Act α → Prop)
    : Prop where
  pure : ∀ {α : Type} (value : α), related (Pure.pure value) (Pure.pure value)
  bind
    : ∀ {α β : Type} {left right : Act α} {next other : α → Act β},
        related left right
        → (∀ value, related (next value) (other value))
        → related (left >>= next) (right >>= other)
  announce
    : ∀ phases event, related (announce first phases event) (announce second phases event)
  dispatch
    : ∀ chain directive,
        related (dispatch first chain directive) (dispatch second chain directive)
  stepsBegin : ∀ task, related (note (.stepsBegin task)) (note (.stepsBegin task))
  stepsEnd : ∀ task, related (note (.stepsEnd task)) (note (.stepsEnd task))
  within
    : ∀ {α : Type} {left right : Act α} (frame : Variables),
        related left right → related (within frame left) (within frame right)
  putNode : ∀ node, related (putNode node) (putNode node)

namespace Congruence

variable {first second : Context} {related : ∀ {α : Type}, Act α → Act α → Prop}

theorem runDirective (congruence : Congruence first second related) (chain : List String)
    (directive : String)
    : related (runDirective first chain directive) (runDirective second chain directive) :=
  congruence.bind (congruence.announce _ _) fun _ =>
    congruence.bind (congruence.dispatch _ _) fun result =>
      congruence.bind (congruence.announce _ _) fun _ => congruence.pure result

theorem runDirectives (congruence : Congruence first second related) (chain : List String)
    (directives : List String)
    : related (runDirectives first chain directives) (runDirectives second chain directives) := by
  induction directives with
  | nil => exact congruence.pure _
  | cons directive rest ih =>
      refine congruence.bind (congruence.runDirective chain directive) fun result => ?_
      cases abortion? result with
      | some failure => exact congruence.pure _
      | none => exact congruence.bind ih fun _ => congruence.pure _

theorem runStep (congruence : Congruence first second related) (chain : List String)
    (step : Step)
    : related (runStep first chain step) (runStep second chain step) :=
  congruence.bind (congruence.announce _ _) fun _ =>
    congruence.bind (congruence.runDirectives _ _) fun _ =>
      congruence.bind (congruence.announce _ _) fun _ => congruence.pure _

theorem runSteps (congruence : Congruence first second related) (chain : List String)
    (steps : List Step)
    : related (runSteps first chain steps) (runSteps second chain steps) := by
  induction steps with
  | nil => exact congruence.pure _
  | cons step rest ih =>
      exact congruence.bind (congruence.runStep chain step) fun _ =>
        congruence.bind ih fun _ => congruence.pure _

/-- Prerequisites are related one after another if each of them is. -/
theorem runPrerequisites (congruence : Congruence first second related)
    {chain names : List String}
    (each
      : ∀ name ∈ names,
          related (runPrerequisite first chain name) (runPrerequisite second chain name))
    : related (runPrerequisites first chain names) (runPrerequisites second chain names) := by
  induction names with
  | nil =>
      rw [Act.runPrerequisites, Act.runPrerequisites]
      exact congruence.pure _
  | cons name rest ih =>
      obtain ⟨head, tail⟩ := List.forall_mem_cons.mp each
      rw [Act.runPrerequisites, Act.runPrerequisites]
      exact congruence.bind head fun _ => ih tail

/-- Tasks are related if the contexts agree on all that they need to have run before them, by
induction along the prerequisites.
-/
theorem runNested_of_agree (congruence : Congruence first second related)
    {chain : List String} {task : Task}
    (agree
      : ∀ name ∈ task.prerequisites,
          ∀ needed,
            Relation.ReflTransGen first.tasks.Requires name needed
            → second.tasks.get? needed = first.tasks.get? needed)
    : related (runNested first chain task) (runNested second chain task) := by
  induction chain, task using first.tasks.prerequisites_induction with
  | inherits chain task below =>
    rw [Act.runNested, Act.runNested]
    refine congruence.bind (congruence.announce _ _) fun _ => ?_
    refine congruence.bind (congruence.within task.frame ?_) fun _ =>
      congruence.bind (congruence.announce _ _) fun _ => congruence.putNode _
    refine congruence.bind (congruence.runPrerequisites fun name member => ?_) fun _ =>
      congruence.bind (congruence.stepsBegin _) fun _ =>
        congruence.bind (congruence.runSteps _ _) fun _ =>
          congruence.bind (congruence.stepsEnd _) fun _ => congruence.pure _
    rw [runPrerequisite_eq, runPrerequisite_eq, agree name member name .refl]
    cases under : (chain ++ [task.name]).contains name with
    | true => exact congruence.putNode _
    | false =>
        simp only [Bool.false_eq_true, ↓reduceIte]
        cases found : first.tasks.get? name with
        | none => exact congruence.putNode _
        | some next =>
            refine below name member next under found fun further member' needed path => ?_
            exact agree name member needed (.head ⟨next, found, member'⟩ path)

/-- Tasks are related, with their prerequisites at any depth. -/
theorem runNested (congruence : Congruence first second related)
    (same : second.tasks = first.tasks) (chain : List String) (task : Task)
    : related (runNested first chain task) (runNested second chain task) :=
  congruence.runNested_of_agree fun _ _ _ _ => by rw [same]

end Congruence

end Act

-----------------------------------------------------------------------------------------
-- Whole runs
-----------------------------------------------------------------------------------------

/-- A session that can be launched is a fresh one of some site. -/
theorem Context.exists_site_of_launch {context : Context} {name : String}
    {session : Browser.Session} (launched : context.launch name = .ok session)
    : ∃ pages, session = .launch pages := by
  unfold Context.launch at launched
  split at launched
  next environment _ =>
    cases environment with
    | site pages => exact ⟨pages, by simpa [Environment.launch] using launched.symm⟩
    | unavailable failure => simp [Environment.launch] at launched
  next => cases launched

namespace Run

/-- A relation between parts of runs in two contexts that announcements and sessions of tasks
satisfy and that putting parts together keeps.
-/
structure Congruence (first second : Context)
    (related : ∀ {α : Type}, RunM α → RunM α → Prop)
    : Prop where
  pure : ∀ {α : Type} (value : α), related (Pure.pure value) (Pure.pure value)
  bind
    : ∀ {α β : Type} {left right : RunM α} {next other : α → RunM β},
        related left right
        → (∀ value, related (next value) (other value))
        → related (left >>= next) (right >>= other)
  announce
    : ∀ phases event, related (announce first phases event) (announce second phases event)
  inSession
    : ∀ environment pages scope task,
        related (inSession environment (.launch pages) scope (Act.runTask first task))
          (inSession environment (.launch pages) scope (Act.runTask second task))

namespace Congruence

variable {first second : Context} {related : ∀ {α : Type}, RunM α → RunM α → Prop}

theorem runTask (congruence : Congruence first second related)
    (tasks : second.tasks = first.tasks) (environments : second.environments = first.environments)
    (plan : Plan) (name : String)
    : related (runTask first plan name) (runTask second plan name) := by
  have launch : second.launch plan.environment = first.launch plan.environment := by
    simp only [Context.launch, environments]
  unfold Run.runTask
  rw [tasks]
  cases first.tasks.get? name with
  | none => exact congruence.pure _
  | some task =>
      simp only [launch]
      cases launched : first.launch plan.environment with
      | error failure => exact congruence.pure _
      | ok session =>
          obtain ⟨pages, rfl⟩ := Context.exists_site_of_launch launched
          exact congruence.inSession _ pages _ task

theorem runTasks (congruence : Congruence first second related)
    (tasks : second.tasks = first.tasks) (environments : second.environments = first.environments)
    (plan : Plan) (names : List String)
    : related (runTasks first plan names) (runTasks second plan names) := by
  induction names with
  | nil => exact congruence.pure _
  | cons name rest ih =>
      exact congruence.bind (congruence.runTask tasks environments plan name) fun _ =>
        congruence.bind ih fun _ => congruence.pure _

theorem runPlan (congruence : Congruence first second related)
    (tasks : second.tasks = first.tasks) (environments : second.environments = first.environments)
    (plan : Plan)
    : related (runPlan first plan) (runPlan second plan) := by
  have order : order second plan = order first plan := by
    simp only [Run.order, tasks]
  unfold Run.runPlan
  rw [order]
  exact congruence.bind (congruence.announce _ _) fun _ =>
    congruence.bind (congruence.runTasks tasks environments plan _) fun _ =>
      congruence.bind (congruence.announce _ _) fun _ => congruence.pure _

theorem runPlans (congruence : Congruence first second related)
    (tasks : second.tasks = first.tasks) (environments : second.environments = first.environments)
    (plans : List Plan)
    : related (runPlans first plans) (runPlans second plans) := by
  induction plans with
  | nil => exact congruence.pure _
  | cons plan rest ih =>
      exact congruence.bind (congruence.runPlan tasks environments plan) fun _ =>
        congruence.bind ih fun _ => congruence.pure _

/-- The two runs are related as a whole. -/
theorem runAll (congruence : Congruence first second related)
    (tasks : second.tasks = first.tasks) (environments : second.environments = first.environments)
    (plans : List Plan)
    : related (runAll first plans) (runAll second plans) :=
  congruence.bind (congruence.announce _ _) fun _ =>
    congruence.bind (congruence.runPlans tasks environments plans) fun _ =>
      congruence.bind (congruence.announce _ _) fun _ => congruence.pure _

end Congruence

theorem ofPlans_eq (context : Context) (plans : List Plan)
    : ofPlans context plans
      = ⟨(outcome (runAll context plans) {}).1, (outcome (runAll context plans) {}).2⟩ :=
  rfl

end Run

end Rehearsal
