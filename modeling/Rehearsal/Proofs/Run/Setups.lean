import Rehearsal.Proofs.Order.Schedule
import Rehearsal.Proofs.Run.Tree

/-! Which tasks have run by the time the steps of a task begin. Setups are brought forward for the
tasks in the order of a plan only; those of a prerequisite are not asked for when it runs.
-/

namespace Rehearsal

-----------------------------------------------------------------------------------------
-- Where steps begin and end
-----------------------------------------------------------------------------------------

/-- The moments of a part of a run in which the steps of a task begin or end. -/
def stepsOf (chronicle : List Moment) : List Moment :=
  chronicle.filter fun
    | .stepsBegin _ | .stepsEnd _ => true
    | _ => false

theorem stepsOf_append (before after : List Moment)
    : stepsOf (before ++ after) = stepsOf before ++ stepsOf after :=
  List.filter_append ..

theorem stepsOf_noticed (notices : List Notice) : stepsOf (notices.map .noticed) = [] := by
  simp [stepsOf]

theorem stepsOf_browsed (environment : String) (entries : List Browser.Entry)
    : stepsOf (entries.map (.browsed environment)) = [] := by
  simp [stepsOf]

/-- The steps of tasks that run one after another. -/
def stepMarks (tasks : List String) : List Moment :=
  tasks.flatMap fun task => [.stepsBegin task, .stepsEnd task]

theorem stepMarks_append (before after : List String)
    : stepMarks (before ++ after) = stepMarks before ++ stepMarks after :=
  List.flatMap_append

theorem stepsEnd_mem_stepMarks {tasks : List String} {task : String}
    : .stepsEnd task ∈ stepMarks tasks ↔ task ∈ tasks := by
  simp [stepMarks]

/-- When the steps of a task begin, those of the tasks ahead of it have ended. -/
theorem exists_of_stepMarks_eq {tasks : List String} {earlier later : List Moment} {task : String}
    (split : stepMarks tasks = earlier ++ .stepsBegin task :: later)
    : ∃ ahead behind, tasks = ahead ++ task :: behind ∧ earlier = stepMarks ahead := by
  induction tasks generalizing earlier with
  | nil => simp [stepMarks] at split
  | cons first rest ih =>
      have marks : stepMarks (first :: rest)
          = .stepsBegin first :: .stepsEnd first :: stepMarks rest :=
        rfl
      rw [marks] at split
      match earlier with
      | [] =>
          injection split with same _
          injection same with same
          exact ⟨[], rest, by rw [same, List.nil_append], rfl⟩
      | [_] =>
          injection split with _ split
          injection split with absurd _
          cases absurd
      | _ :: _ :: earlier =>
          injection split with begun split
          injection split with ended split
          obtain ⟨ahead, behind, rfl, rfl⟩ := ih split
          exact ⟨first :: ahead, behind, rfl, by rw [← begun, ← ended]; rfl⟩

/-- An item that several lists give one after another is given by one of them, after all that the
lists ahead of that one give.
-/
theorem exists_of_flatMap_eq {α β : Type} {items : List α} {each : α → List β}
    {earlier later : List β} {item : β} (split : items.flatMap each = earlier ++ item :: later)
    : ∃ before source after given rest,
        items = before ++ source :: after
        ∧ each source = given ++ item :: rest
        ∧ earlier = before.flatMap each ++ given := by
  induction items generalizing earlier with
  | nil => simp at split
  | cons head tail ih =>
      -- The item is given by a later list if all that the first one gives comes ahead of it.
      have behind {others : List β} (split : tail.flatMap each = others ++ item :: later)
          (same : earlier = each head ++ others)
          : ∃ before source after given rest,
              head :: tail = before ++ source :: after
              ∧ each source = given ++ item :: rest
              ∧ earlier = before.flatMap each ++ given := by
        obtain ⟨before, source, after, given, rest, rfl, gives, rfl⟩ := ih split
        refine ⟨head :: before, source, after, given, rest, rfl, gives, ?_⟩
        rw [same, List.flatMap_cons, List.append_assoc]
      rw [List.flatMap_cons] at split
      obtain ⟨others, same, split⟩ | ⟨given, gives, split⟩ := List.append_eq_append_iff.mp split
      · exact behind split same
      · cases given with
        | nil =>
            have later : tail.flatMap each = [] ++ item :: later := split.symm
            exact behind later (by rw [gives, List.append_nil, List.append_nil])
        | cons first rest =>
            injection split with same _
            exact ⟨[], head, tail, earlier, rest, rfl, same ▸ gives, rfl⟩

-----------------------------------------------------------------------------------------
-- The steps of a plan
-----------------------------------------------------------------------------------------

/-- The tasks that are carried out when a name is run, in order: the registered prerequisites at
any depth, and last the task itself.
-/
def TaskRegistry.carriedOut (registry : TaskRegistry) (name : String) : List String :=
  match registry.get? name with
  | none => []
  | some task => registry.postorder (fun _ _ => []) (fun task => [task.name]) [name] task

/-- A registered task is carried out when its name is run. -/
theorem TaskRegistry.mem_carriedOut {registry : TaskRegistry} {name : String} {task : Task}
    (found : registry.get? name = some task)
    : name ∈ registry.carriedOut name := by
  unfold carriedOut
  rw [found]
  simp only [postorder_eq, name_of_get? found, List.mem_append, List.mem_singleton, or_true]

/-- The steps of all that is carried out, task by task. -/
theorem TaskRegistry.stepMarks_carriedOut {registry : TaskRegistry} {name : String} {task : Task}
    (found : registry.get? name = some task)
    : stepMarks (registry.carriedOut name)
      = registry.postorder (fun _ _ => [])
          (fun task => [.stepsBegin task.name] ++ [.stepsEnd task.name] ++ [])
          ([] ++ [task.name]) task := by
  unfold carriedOut stepMarks
  rw [found, ← name_of_get? found]
  exact flatMap_postorder _ [] task

/-- Steps are seen where they begin and end, and nowhere else. -/
theorem Act.stepsAccount (context : Context)
    : Account context (fun stage => stepsOf stage.chronicle) (fun _ _ => [])
        (fun task => [.stepsBegin task]) (fun task => [.stepsEnd task]) (fun _ => []) where
  announce phases event := .of_view fun stage => by
    rw [outcome_announce]
    simp only [stepsOf_append, stepsOf_noticed]
  dispatch chain directive := .of_view fun stage => by
    rw [outcome_dispatch]
    simp only [stepsOf_append, stepsOf_browsed]
    simp [stepsOf]
  stepsBegin _ := .of_view fun _ => stepsOf_append _ _
  stepsEnd _ := .of_view fun _ => stepsOf_append _ _
  scope _ _ := rfl
  putFailed _ _ := .of_view fun _ => (List.append_nil _).symm
  putResult _ _ _ := .of_view fun _ => (List.append_nil _).symm

namespace Run

variable {context : Context} {plan : Plan}

theorem gainsSteps_announce (phases : List Phase) (event : Event)
    : Gains (fun log => stepsOf log.chronicle) (announce context phases event)
        (fun _ => True) [] :=
  .of_view fun log => by
    rw [outcome_announce]
    simp only [stepsOf_append, stepsOf_noticed]

/-- Neither the launch nor the close of a session is a moment of steps. -/
theorem gainsSteps_inSession {act : Act Unit} {items : List Moment}
    (gains : Gains (fun stage => stepsOf stage.chronicle) act (fun _ => True) items)
    (environment : String) (pages : Browser.Site) (scope : Scope)
    : Gains (fun log => stepsOf log.chronicle)
        (inSession environment (.launch pages) scope act) (fun _ => True) items := by
  intro log nodes after ended
  rw [outcome_inSession_eq] at ended
  cases inner : outcome act (log.stage environment pages scope) with
  | mk ending stage =>
      rw [inner] at ended
      cases ending with
      | error refusal => cases ended
      | ok value =>
          cases ended
          obtain ⟨_, gained⟩ := gains inner
          refine ⟨trivial, ?_⟩
          simp only [stepsOf_append, stepsOf_browsed, List.append_nil, gained]
          simp [stepsOf]

/-- The steps that are run for a name are those of the tasks that are carried out for it. -/
theorem gainsSteps_runTask {pages : Browser.Site}
    (site
      : context.environments.get? (Context.environmentKey plan.environment) = some (.site pages))
    (name : String)
    : Gains (fun log => stepsOf log.chronicle) (runTask context plan name) (fun _ => True)
        (stepMarks (context.tasks.carriedOut name)) := by
  have launched : context.launch plan.environment = .ok (.launch pages) := by
    rw [Context.launch, site]
    rfl
  unfold runTask
  cases found : context.tasks.get? name with
  | none =>
      have none : context.tasks.carriedOut name = [] := by rw [TaskRegistry.carriedOut, found]
      rw [none]
      exact .pure trivial
  | some task =>
      simp only [launched]
      have nested := (Act.stepsAccount context).runNested [] task
      rw [← TaskRegistry.stepMarks_carriedOut found] at nested
      exact gainsSteps_inSession nested _ _ _

theorem gainsSteps_runTasks {pages : Browser.Site}
    (site
      : context.environments.get? (Context.environmentKey plan.environment) = some (.site pages))
    (names : List String)
    : Gains (fun log => stepsOf log.chronicle) (runTasks context plan names) (fun _ => True)
        (stepMarks (names.flatMap context.tasks.carriedOut)) := by
  induction names with
  | nil => exact .pure trivial
  | cons name rest ih =>
      rw [List.flatMap_cons, stepMarks_append]
      exact (gainsSteps_runTask site name).bind fun _ _ => ih.after fun _ _ => .pure trivial

/-- The steps of a plan are those of all that is carried out for the names in its order. -/
theorem gainsSteps_runPlan {pages : Browser.Site}
    (site
      : context.environments.get? (Context.environmentKey plan.environment) = some (.site pages))
    : Gains (fun log => stepsOf log.chronicle) (runPlan context plan) (fun _ => True)
        (stepMarks ((order context plan).flatMap context.tasks.carriedOut)) :=
  (gainsSteps_announce _ _).before fun _ _ =>
    (gainsSteps_runTasks site _).after fun _ _ =>
      (gainsSteps_announce _ _).before fun _ _ => .pure trivial

/-- In the run of a plan that no callback ends, the steps of all that is carried out for the names
in the order of the plan run, one task after another. When the steps of a task begin, those have
ended of what is carried out for the names ahead in the order and of the prerequisites ahead under
the same name. That takes in the setups of a task that stands in the order itself; a setup that is
named by a prerequisite alone has run only if it happens to be among them.
-/
theorem steps_begin_after {pages : Browser.Site} {log after : RunLog} {result : Result}
    (site
      : context.environments.get? (Context.environmentKey plan.environment) = some (.site pages))
    (ended : outcome (runPlan context plan) log = (.ok result, after))
    : ∃ marks,
        stepsOf after.chronicle = stepsOf log.chronicle ++ marks
        ∧ marks = stepMarks ((order context plan).flatMap context.tasks.carriedOut)
        ∧ ∀ earlier task later,
            marks = earlier ++ .stepsBegin task :: later
            → ∃ before name rest ran unrun,
                order context plan = before ++ name :: rest
                ∧ context.tasks.carriedOut name = ran ++ task :: unrun
                ∧ (∀ other,
                    .stepsEnd other ∈ earlier
                    ↔ (∃ ahead ∈ before, other ∈ context.tasks.carriedOut ahead) ∨ other ∈ ran)
                ∧ (task = name
                  → ∀ setup needed,
                      context.tasks.Needs task setup
                      → context.tasks.get? setup = some needed
                      → .stepsEnd setup ∈ earlier) := by
  obtain ⟨_, gained⟩ := gainsSteps_runPlan site ended
  refine ⟨_, gained, rfl, fun earlier task later split => ?_⟩
  obtain ⟨done, behind, whole, rfl⟩ := exists_of_stepMarks_eq split
  obtain ⟨before, name, rest, ran, unrun, inOrder, carried, rfl⟩ := exists_of_flatMap_eq whole
  have ended (other : String)
      : .stepsEnd other ∈ stepMarks (before.flatMap context.tasks.carriedOut ++ ran)
        ↔ (∃ ahead ∈ before, other ∈ context.tasks.carriedOut ahead) ∨ other ∈ ran := by
    rw [stepsEnd_mem_stepMarks, List.mem_append, List.mem_flatMap]
  refine ⟨before, name, rest, ran, unrun, inOrder, carried, ended, ?_⟩
  rintro rfl setup needed needs found
  rw [← context.tasks.needs_setups] at needs
  have ahead : setup ∈ before := Order.setup_before inOrder needs
  exact (ended setup).mpr (.inl ⟨setup, ahead, TaskRegistry.mem_carriedOut found⟩)

end Run

/-- Three tasks: the last one needs the second one at every run, which needs the first one once. -/
def shopContext : Context where
  tasks :=
    { entries := .ofList
        [("login", { name := "login", setups := ["seed"] }), ("seed", { name := "seed" }),
          ("shop", { name := "shop", prerequisites := ["login"] })]
      named := by decide }
  environments := .ofList [("memory", .site ∅)]

/-- A plan with the last of these tasks. -/
def shopPlan : Plan where
  name := "plan"
  environment := "Memory"
  tasks := ["shop"]

/-- The first task never runs, although the second one does. -/
theorem Run.login_begins_unseeded
    : ∃ pages result after,
        shopContext.environments.get? (Context.environmentKey shopPlan.environment)
          = some (.site pages)
        ∧ outcome (runPlan shopContext shopPlan) {} = (.ok result, after)
        ∧ stepsOf after.chronicle = stepMarks ["login", "shop"]
        ∧ shopContext.tasks.Needs "login" "seed"
        ∧ ∃ before name,
            order shopContext shopPlan = before ++ [name]
            ∧ ¬ ((∃ ahead ∈ before, "seed" ∈ shopContext.tasks.carriedOut ahead)
              ∨ "seed" ∈ shopContext.tasks.carriedOut name) := by
  have passes : shopContext.NeverRefuses := by
    intro callback member
    cases member
  have site : shopContext.environments.get? (Context.environmentKey shopPlan.environment)
      = some (.site ∅) :=
    rfl
  obtain ⟨result, after, ended, _⟩ := yields_runPlan passes shopPlan {}
  obtain ⟨marks, gained, same, _⟩ := steps_begin_after site ended
  have whole : marks = stepMarks ["login", "shop"] := by
    rw [same]
    exact congrArg stepMarks (by decide +kernel)
  refine ⟨∅, result, after, site, ended, gained.trans whole, ?_, [], "shop", ?_, ?_⟩
  · exact ⟨{ name := "login", setups := ["seed"] }, by decide +kernel, by decide⟩
  · decide +kernel
  · decide +kernel

end Rehearsal
