import Mathlib.Data.List.Forall2
import Rehearsal.Run

/-! What is told of a run follows its tree of results: of everything that runs, first that it
begins, then what is told of its content, and then that it has ended. A prerequisite is told of
within the task that it is run for, although its result stands beside the one of that task.
-/

namespace Rehearsal

-----------------------------------------------------------------------------------------
-- What is told of a run
-----------------------------------------------------------------------------------------

/-- What is told when something is announced before its content and after it, and when a directive
has been carried out.
-/
structure Telling (ι : Type) where
  opening : Event → List ι
  closing : Event → List ι
  dispatch : Result → List ι

/-- A result is one of a step: under its name, and with childless results of the directives that
the step begins with.
-/
structure Step.IsResult (step : Step) (result : Result) : Prop where
  name : result.name = step.name
  directives : result.children.map Result.name <+: step.directives
  childless : ∀ node ∈ result.children, node.children = []

namespace Telling

variable {ι : Type}

/-- What is told of content between the announcements before and after it. -/
def around (telling : Telling ι) (before : Event) (content : List ι) (after : Event) : List ι :=
  telling.opening before ++ content ++ telling.closing after

/-- What is told of a directive with a result. -/
def ofDirective (telling : Telling ι) (result : Result) : List ι :=
  telling.around (.directive result.name none) (telling.dispatch result)
    (.directive result.name (some result))

/-- What is told of a step with a result: its content is that of the directives that have a node in
the result.
-/
def ofStep (telling : Telling ι) (step : Step) (result : Result) : List ι :=
  telling.around (.step step none) (result.children.flatMap telling.ofDirective)
    (.step step (some result))

/-- What is told of steps with a result each, one after another. -/
def ofSteps (telling : Telling ι) (steps : List Step) (results : List Result) : List ι :=
  (List.zipWith telling.ofStep steps results).flatten

/-- The tasks with some names, run one after another while the tasks of a chain are under way: the
results that are recorded, and what is told. Of a name that is under way or unknown, nothing is
told. The content of a task is that of its prerequisites and then that of its steps.
-/
inductive OfTasks (telling : Telling ι) (registry : TaskRegistry)
    : List String → List String → List Result → List ι → Prop
  | nil {chain} : telling.OfTasks registry chain [] [] []
  | underWay {chain name rest nodes items} (under : name ∈ chain)
    (later : telling.OfTasks registry chain rest nodes items)
    : telling.OfTasks registry chain (name :: rest)
        (.failed name (.prerequisiteCycle name) :: nodes) items
  | unknown {chain name rest nodes items} (fresh : name ∉ chain)
    (lacking : registry.get? name = none) (later : telling.OfTasks registry chain rest nodes items)
    : telling.OfTasks registry chain (name :: rest) (.failed name (.unknownTask name) :: nodes)
        items
  | runs {chain name rest nodes items} {task : Task} {before : List Result} {content : List ι}
    {children : List Result} (fresh : name ∉ chain) (found : registry.get? name = some task)
    (prerequisites
      : telling.OfTasks registry (chain ++ [name]) task.prerequisites before content)
    (steps : List.Forall₂ Step.IsResult task.steps children)
    (later : telling.OfTasks registry chain rest nodes items)
    : telling.OfTasks registry chain (name :: rest) (before ++ { name, children } :: nodes)
        (telling.around (.task task none) (content ++ telling.ofSteps task.steps children)
            (.task task (some { name, children }))
          ++ items)

/-- A name in the order of a plan: the results that it gives, and what is told. Nothing is told of
a name that is unknown or has no environment.
-/
inductive OfName (telling : Telling ι) (context : Context) (plan : Plan) (name : String)
    : List Result → List ι → Prop
  | unknown (lacking : context.tasks.get? name = none)
    : telling.OfName context plan name [.failed name (.unknownTask name)] []
  | unlaunched {task : Task} {failure : Failure} (found : context.tasks.get? name = some task)
    (lacking : context.launch plan.environment = .error failure)
    : telling.OfName context plan name [.failed name failure] []
  | runs {session : Browser.Session} {nodes : List Result} {items : List ι}
    (launched : context.launch plan.environment = .ok session)
    (task : telling.OfTasks context.tasks [] [name] nodes items)
    : telling.OfName context plan name nodes items

/-- A plan: its result, and what is told. Its content is that of the names in its order. -/
inductive OfPlan (telling : Telling ι) (context : Context) (plan : Plan)
    : Result → List ι → Prop
  | runs {parts : List (List Result × List ι)}
    (names
      : List.Forall₂ (fun name part => telling.OfName context plan name part.1 part.2)
          (Run.order context plan) parts)
    : telling.OfPlan context plan { name := plan.name, children := parts.flatMap Prod.fst }
        (telling.around (.plan plan none) (parts.flatMap Prod.snd)
          (.plan plan (some { name := plan.name, children := parts.flatMap Prod.fst })))

/-- A run: its results, and what is told. Its content is that of the plans, one after another. -/
inductive OfRun (telling : Telling ι) (context : Context) (plans : List Plan)
    : List Result → List ι → Prop
  | runs {parts : List (Result × List ι)}
    (each : List.Forall₂ (fun plan part => telling.OfPlan context plan part.1 part.2) plans parts)
    : telling.OfRun context plans (parts.map Prod.fst)
        (telling.around (.run none) (parts.flatMap Prod.snd) (.run (some (parts.map Prod.fst))))

variable {telling : Telling ι} {registry : TaskRegistry}

/-- What is told of names one after another, by induction on the first ones. -/
theorem OfTasks.append {chain names others : List String} {nodes nodes' : List Result}
    {items items' : List ι} (first : telling.OfTasks registry chain names nodes items)
    (later : telling.OfTasks registry chain others nodes' items')
    : telling.OfTasks registry chain (names ++ others) (nodes ++ nodes') (items ++ items') := by
  induction first with
  | nil => exact later
  | underWay under _ ih => exact .underWay under (ih later)
  | unknown fresh lacking _ ih => exact .unknown fresh lacking (ih later)
  | runs fresh found prerequisites steps _ _ ih =>
      rw [List.append_assoc, List.append_assoc]
      exact .runs fresh found prerequisites steps (ih later)

/-- The result of a plan stands under its name. -/
theorem OfPlan.name {context : Context} {plan : Plan} {result : Result} {items : List ι}
    (ran : telling.OfPlan context plan result items)
    : result.name = plan.name := by
  cases ran
  rfl

end Telling

-----------------------------------------------------------------------------------------
-- Announcements that no callback refuses
-----------------------------------------------------------------------------------------

/-- The calls for an event in some phases, phase by phase: those of the callbacks meant for it, in
the order of their registration.
-/
def Callback.heard (callbacks : List Callback) (phases : List Phase) (event : Event)
    : List Notice :=
  phases.flatMap fun phase =>
    (callbacks.zipIdx.filter fun (callback, _) => callback.hears phase event).map
      fun (callback, place) => ⟨place, callback.listener, phase, event⟩

namespace Callback

/-- Without a refusal all callbacks meant for the event are called, by induction on those that are
still to be asked.
-/
theorem announcePhase_eq {callbacks : List Callback} {phase : Phase} {event : Event} {place : Nat}
    (passes : (announcePhase phase event place callbacks).2 = none)
    : (announcePhase phase event place callbacks).1
      = ((callbacks.zipIdx place).filter fun (callback, _) => callback.hears phase event).map
          fun (callback, place) => ⟨place, callback.listener, phase, event⟩ := by
  induction callbacks generalizing place with
  | nil => rfl
  | cons callback rest ih =>
      rw [List.zipIdx_cons]
      unfold announcePhase at passes ⊢
      cases heard : callback.hears phase event with
      | false =>
          simp only [heard, Bool.false_eq_true, ↓reduceIte] at passes ⊢
          rw [ih passes, List.filter_cons_of_neg (by simp [heard])]
      | true =>
          simp only [heard, ↓reduceIte] at passes ⊢
          cases refused : callback.refuse event with
          | some complaint => simp [refused] at passes
          | none =>
              simp only [refused] at passes ⊢
              rw [ih passes, List.filter_cons_of_pos (by simp [heard]), List.map_cons]

theorem announce_eq_heard {callbacks : List Callback} {event : Event} {phases : List Phase}
    (passes : (announce callbacks event phases).2 = none)
    : (announce callbacks event phases).1 = heard callbacks phases event := by
  induction phases with
  | nil => rfl
  | cons phase rest ih =>
      unfold announce at passes ⊢
      unfold heard
      rw [List.flatMap_cons]
      cases ended : announcePhase phase event 0 callbacks with
      | mk notices refusal =>
          rw [ended] at passes
          cases refusal with
          | some refusal => cases passes
          | none =>
              have first := announcePhase_eq (congrArg Prod.snd ended)
              rw [ended] at first
              exact congrArg₂ (· ++ ·) first (ih passes)

end Callback

end Rehearsal
