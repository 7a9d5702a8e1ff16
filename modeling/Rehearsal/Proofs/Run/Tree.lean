import Mathlib.Data.List.Forall2
import Rehearsal.Proofs.Run.Account

/-! The tree of results of a run in which no callback refuses to go on. Its shape depends on the
plans and the registered tasks only, whatever the directives do.
-/

namespace Rehearsal

-----------------------------------------------------------------------------------------
-- The tree that is due
-----------------------------------------------------------------------------------------

/-- What a node of the tree of results shows: its name, its own failure and the names of its
children.
-/
structure Outline where
  name : String
  error : Option Failure := none
  children : List String := []

/-- The outline of a childless node with a failure. -/
def Outline.failed (name : String) (failure : Failure) : Outline :=
  { name, error := some failure }

def Result.outline (result : Result) : Outline where
  name := result.name
  error := result.error
  children := result.children.map Result.name

/-- The outlines of a task that runs and, before it, of its prerequisites. The chain holds the
tasks under way, this one included.
-/
def postOutlines (tasks : TaskRegistry) (chain : List String) (task : Task) : List Outline :=
  task.prerequisites.flatMap (fun name =>
    if _under : chain.contains name then [.failed name (.prerequisiteCycle name)]
    else
      match _found : tasks.get? name with
      | none => [.failed name (.unknownTask name)]
      | some task => postOutlines tasks (chain ++ [name]) task)
  ++ [{ name := task.name, children := task.steps.map Step.name }]
termination_by idleTasks tasks chain
decreasing_by
  rw [← TaskRegistry.name_of_get? _found]
  exact idleTasks_append_lt _found (by simpa using _under)

/-- The outlines of one prerequisite of the innermost task under way. -/
def prerequisiteOutlines (tasks : TaskRegistry) (chain : List String) (name : String)
    : List Outline :=
  if chain.contains name then [.failed name (.prerequisiteCycle name)]
  else
    match tasks.get? name with
    | none => [.failed name (.unknownTask name)]
    | some task => postOutlines tasks (chain ++ [name]) task

/-- A task comes after all its prerequisites. -/
theorem postOutlines_eq (tasks : TaskRegistry) (chain : List String) (task : Task)
    : postOutlines tasks chain task
      = task.prerequisites.flatMap (prerequisiteOutlines tasks chain)
        ++ [{ name := task.name, children := task.steps.map Step.name }] := by
  have each (name : String)
      : (if _under : chain.contains name then [Outline.failed name (.prerequisiteCycle name)]
        else
          match _found : tasks.get? name with
          | none => [.failed name (.unknownTask name)]
          | some task => postOutlines tasks (chain ++ [name]) task)
        = prerequisiteOutlines tasks chain name := by
    unfold prerequisiteOutlines
    split
    · rfl
    · split <;> simp_all
  rw [postOutlines]
  simp only [each]

/-- The outlines are said of a task and its prerequisites in postorder, by induction along the
prerequisites.
-/
theorem postOutlines_eq_postorder (tasks : TaskRegistry) (chain : List String) (task : Task)
    : postOutlines tasks (chain ++ [task.name]) task
      = tasks.postorder (fun name failure => [.failed name failure])
          (fun task => [] ++ [] ++ [{ name := task.name, children := task.steps.map Step.name }])
          (chain ++ [task.name]) task := by
  induction chain, task using tasks.prerequisites_induction with
  | inherits chain task below =>
    rw [postOutlines_eq, TaskRegistry.postorder_eq]
    refine congrArg (· ++ _) (List.flatMap_congr fun name member => ?_)
    unfold prerequisiteOutlines
    cases under : (chain ++ [task.name]).contains name with
    | true => rw [TaskRegistry.settle_of_mem under, if_pos rfl]
    | false =>
        rw [if_neg Bool.false_ne_true]
        cases found : tasks.get? name with
        | none => rw [TaskRegistry.settle_of_unknown under found]
        | some next =>
            rw [TaskRegistry.settle_of_registered under found,
              ← below name member next under found, TaskRegistry.name_of_get? found]

/-- The outlines of one task in the order of a plan. -/
def Context.taskOutlines (context : Context) (plan : Plan) (name : String) : List Outline :=
  match context.tasks.get? name with
  | none => [.failed name (.unknownTask name)]
  | some task =>
      match context.environments.get? (environmentKey plan.environment) with
      | none => [.failed name (.unknownEnvironment plan.environment)]
      | some (.unavailable failure) => [.failed name failure]
      | some (.site _) => postOutlines context.tasks [name] task

/-- A result is the one that is due for a plan: under its name, without a failure of its own, and
with the children of its tasks in order.
-/
structure Context.IsDue (context : Context) (plan : Plan) (result : Result) : Prop where
  name : result.name = plan.name
  error : result.error = none
  children
    : result.children.map Result.outline
      = (Run.order context plan).flatMap (context.taskOutlines plan)

-----------------------------------------------------------------------------------------
-- Parts of a run that come to an end
-----------------------------------------------------------------------------------------

/-- No callback refuses to go on. -/
def Context.NeverRefuses (context : Context) : Prop :=
  ∀ callback ∈ context.callbacks, ∀ event, callback.refuse event = none

namespace Callback

variable {callbacks : List Callback}

theorem announcePhase_passes
    (passes : ∀ callback ∈ callbacks, ∀ event, callback.refuse event = none)
    (phase : Phase) (event : Event) (place : Nat)
    : (announcePhase phase event place callbacks).2 = none := by
  induction callbacks generalizing place with
  | nil => rfl
  | cons callback rest ih =>
      obtain ⟨head, tail⟩ := List.forall_mem_cons.mp passes
      unfold announcePhase
      split
      · rw [head event]
        exact ih tail _
      · exact ih tail _

theorem announce_passes
    (passes : ∀ callback ∈ callbacks, ∀ event, callback.refuse event = none)
    (event : Event) (phases : List Phase)
    : (announce callbacks event phases).2 = none := by
  induction phases with
  | nil => rfl
  | cons phase rest ih =>
      have first := announcePhase_passes passes phase event 0
      unfold announce
      split
      next ended => simp [ended] at first
      next => exact ih

end Callback

/-- A program ends well from every state, with a value and a state after it as said. -/
def Achieves {ε σ α : Type} (program : ExceptT ε (StateM σ) α) (goal : σ → α → σ → Prop) : Prop :=
  ∀ state, ∃ value after, outcome program state = (.ok value, after) ∧ goal state value after

namespace Act

variable {context : Context} {α : Type}

/-- A part within a session ends well, with a value as said, and records results with the given
outlines.
-/
def Yields (act : Act α) (goal : α → Prop) (outlines : List Outline) : Prop :=
  Achieves act fun before value after =>
    goal value
    ∧ after.nodes.map Result.outline = before.nodes.map Result.outline ++ outlines

/-- If no callback refuses to go on, every part within a session ends well. -/
theorem endsWell (passes : context.NeverRefuses)
    : Congruence context context fun act _ => Achieves act fun _ _ _ => True where
  pure value := fun stage => ⟨value, stage, rfl, trivial⟩
  bind first rest := by
    intro stage
    obtain ⟨value, middle, ended, _⟩ := first stage
    obtain ⟨value', after, ended', _⟩ := rest value middle
    exact ⟨value', after, by rw [outcome_bind_of_ok ended, ended'], trivial⟩
  announce phases event := by
    intro stage
    have ended := outcome_announce context phases event stage
    rw [Callback.announce_passes passes] at ended
    exact ⟨(), _, ended, trivial⟩
  dispatch chain directive := fun stage =>
    ⟨_, _, outcome_dispatch context chain directive stage, trivial⟩
  stepsBegin _ := fun _ => ⟨(), _, rfl, trivial⟩
  stepsEnd _ := fun _ => ⟨(), _, rfl, trivial⟩
  within frame ends := by
    intro stage
    obtain ⟨value, after, ended, _⟩ := ends { stage with scope := stage.scope.push frame }
    exact ⟨value, { after with scope := after.scope.leave }, by rw [outcome_within, ended], trivial⟩
  putNode _ := fun _ => ⟨(), _, rfl, trivial⟩

/-- The recorded results show what is due: a failure in the place of a prerequisite that cannot
run, and one child for each step of a task.
-/
theorem outlineAccount (context : Context)
    : Account context (fun stage => stage.nodes.map Result.outline)
        (fun name failure => [.failed name failure]) (fun _ => []) (fun _ => [])
        (fun task => [{ name := task.name, children := task.steps.map Step.name }]) where
  announce phases event := .of_view fun stage => by
    rw [outcome_announce]
    exact (List.append_nil _).symm
  dispatch chain directive := .of_view fun stage => by
    rw [outcome_dispatch]
    exact (List.append_nil _).symm
  stepsBegin _ := .of_view fun _ => (List.append_nil _).symm
  stepsEnd _ := .of_view fun _ => (List.append_nil _).symm
  scope _ _ := rfl
  putFailed _ _ := .of_view fun _ => List.map_append
  putResult task children named := .of_view fun _ => by
    rw [← named]
    exact List.map_append

/-- A task records what is due. -/
theorem yields_runNested (passes : context.NeverRefuses) (chain : List String) (task : Task)
    : Yields (runNested context chain task) (fun _ => True)
        (postOutlines context.tasks (chain ++ [task.name]) task) := by
  intro stage
  obtain ⟨value, after, ended, _⟩ := (endsWell passes).runNested rfl chain task stage
  have recorded := (outlineAccount context).runNested chain task ended
  rw [postOutlines_eq_postorder]
  exact ⟨value, after, ended, recorded⟩

end Act

-----------------------------------------------------------------------------------------
-- Whole runs
-----------------------------------------------------------------------------------------

namespace Run

variable {context : Context} {α β : Type}

/-- A part of a run ends well with a value as said. -/
def Yields (part : RunM α) (goal : α → Prop) : Prop :=
  Achieves part fun _ value _ => goal value

theorem Yields.pure {goal : α → Prop} {value : α} (met : goal value)
    : Yields (Pure.pure value) goal :=
  fun log => ⟨value, log, rfl, met⟩

theorem Yields.bind {part : RunM α} {next : α → RunM β} {goal : α → Prop} {goal' : β → Prop}
    (first : Yields part goal) (rest : ∀ value, goal value → Yields (next value) goal')
    : Yields (part >>= next) goal' := by
  intro log
  obtain ⟨value, middle, ended, met⟩ := first log
  obtain ⟨value', after, ended', met'⟩ := rest value met middle
  refine ⟨value', after, ?_, met'⟩
  rw [outcome_bind_of_ok ended, ended']

theorem yields_announce (passes : context.NeverRefuses) (phases : List Phase) (event : Event)
    : Yields (announce context phases event) fun _ => True := by
  intro log
  have ended := outcome_announce context phases event log
  rw [Callback.announce_passes passes] at ended
  exact ⟨(), _, ended, trivial⟩

/-- A session gives the results that are recorded in it. -/
theorem yields_inSession {act : Act Unit} {goal : Unit → Prop} {outlines : List Outline}
    (yields : Act.Yields act goal outlines) (environment : String) (pages : Browser.Site)
    (scope : Scope)
    : Yields (inSession environment (.launch pages) scope act)
        fun nodes => nodes.map Result.outline = outlines := by
  intro log
  obtain ⟨_, after, ended, _, recorded⟩ := yields (log.stage environment pages scope)
  have whole := outcome_inSession_eq act environment pages scope log
  rw [ended] at whole
  exact ⟨after.nodes, _, whole, recorded⟩

/-- A task of a plan gives what is due, whether or not it can run. -/
theorem yields_runTask (passes : context.NeverRefuses) (plan : Plan) (name : String)
    : Yields (runTask context plan name)
        fun nodes => nodes.map Result.outline = context.taskOutlines plan name := by
  unfold runTask Context.taskOutlines Context.launch
  cases found : context.tasks.get? name with
  | none => exact .pure rfl
  | some task =>
      have same : task.name = name := TaskRegistry.name_of_get? found
      cases context.environments.get? (Context.environmentKey plan.environment) with
      | none => exact .pure rfl
      | some environment =>
          cases environment with
          | unavailable failure => exact .pure rfl
          | site pages =>
              exact yields_inSession (same ▸ Act.yields_runNested passes [] task) _ _ _

theorem yields_runTasks (passes : context.NeverRefuses) (plan : Plan) (names : List String)
    : Yields (runTasks context plan names)
        fun nodes => nodes.map Result.outline = names.flatMap (context.taskOutlines plan) := by
  induction names with
  | nil => exact .pure rfl
  | cons name rest ih =>
      refine (yields_runTask passes plan name).bind fun nodes first => ?_
      refine ih.bind fun others later => .pure ?_
      rw [List.map_append, List.flatMap_cons, first, later]

/-- A plan ends in one result under its own name, with the children that are due. -/
theorem yields_runPlan (passes : context.NeverRefuses) (plan : Plan)
    : Yields (runPlan context plan) (context.IsDue plan) := by
  refine (yields_announce passes _ _).bind fun _ _ => ?_
  refine (yields_runTasks passes plan (order context plan)).bind fun children due => ?_
  exact (yields_announce passes _ _).bind fun _ _ => .pure ⟨rfl, rfl, due⟩

theorem yields_runPlans (passes : context.NeverRefuses) (plans : List Plan)
    : Yields (runPlans context plans) (List.Forall₂ context.IsDue plans) := by
  induction plans with
  | nil => exact .pure .nil
  | cons plan rest ih =>
      refine (yields_runPlan passes plan).bind fun result first => ?_
      exact ih.bind fun results others => .pure (.cons first others)

theorem yields_runAll (passes : context.NeverRefuses) (plans : List Plan)
    : Yields (runAll context plans) (List.Forall₂ context.IsDue plans) := by
  refine (yields_announce passes _ _).bind fun _ _ => ?_
  refine (yields_runPlans passes plans).bind fun results due => ?_
  exact (yields_announce passes _ _).bind fun _ _ => .pure due

/-- If no callback refuses to go on, a run has one result for each plan, in order and under its
name. Its children are those of the tasks in the order of the plan, one after another, each task
after its prerequisites; and a task that runs has one child for each of its steps.
-/
theorem results_of_plans (passes : context.NeverRefuses) (plans : List Plan)
    : ∃ results,
        (ofPlans context plans).ending = .ok results
        ∧ List.Forall₂ context.IsDue plans results := by
  obtain ⟨results, after, ended, due⟩ := yields_runAll passes plans {}
  refine ⟨results, ?_, due⟩
  rw [ofPlans_eq, ended]

end Run

/-- Two tasks that need each other, one of which needs an unknown task as well. -/
def cyclicContext : Context where
  callbacks := [{ listener := .console, entity := .task, phase := .before }]
  tasks :=
    { entries := .ofList
        [("first", { name := "first", prerequisites := ["second"], steps := [{ name := "only" }] }),
          ("second", { name := "second", prerequisites := ["first", "third"] })]
      named := by decide }
  environments := .ofList [("memory", .site ∅)]

/-- A plan with the first of these tasks. -/
def cyclicPlan : Plan where
  name := "plan"
  environment := "Memory"
  tasks := ["first"]

/-- The cycle and the unknown task are recorded in their places. -/
theorem Run.results_of_cyclicPlan
    : cyclicContext.NeverRefuses
      ∧ ∃ result,
          (ofPlans cyclicContext [cyclicPlan]).ending = .ok [result]
          ∧ result.children.map Result.name = ["first", "third", "second", "first"] := by
  have passes : cyclicContext.NeverRefuses := by
    intro callback member event
    rw [List.mem_singleton.mp member]
  obtain ⟨results, ended, due⟩ := results_of_plans passes [cyclicPlan]
  obtain ⟨result, others, first, rest, rfl⟩ := List.forall₂_cons_left_iff.mp due
  cases rest
  refine ⟨passes, result, ended, ?_⟩
  have names := congrArg (List.map Outline.name) first.children
  rw [List.map_map] at names
  refine names.trans ?_
  decide +kernel

end Rehearsal
