import Rehearsal.Lifecycle.Console
import Rehearsal.Proofs.Run.Abort
import Rehearsal.Proofs.Run.Traversal
import Rehearsal.Proofs.Run.Tree

/-! The order of the directives in the tree of results is the order in which they are carried out,
one after another in the sessions of a plan, and the order of their lines on the console. A task
starts before its prerequisites and its node stands behind theirs, but its own directives come after
all of theirs.
-/

namespace Rehearsal

-----------------------------------------------------------------------------------------
-- Telling of directives only
-----------------------------------------------------------------------------------------

/-- The nodes of directives below those of some tasks, from left to right. -/
def directivesBelow (tasks : List Result) : List Result :=
  tasks.flatMap fun task => task.children.flatMap Result.children

/-- The nodes of directives in the result of a plan, from left to right through its tasks and their
steps.
-/
def Result.directiveNodes (plan : Result) : List Result :=
  directivesBelow plan.children

theorem directivesBelow_append (tasks others : List Result)
    : directivesBelow (tasks ++ others) = directivesBelow tasks ++ directivesBelow others :=
  List.flatMap_append

namespace Telling

variable {ι : Type} {telling : Telling ι}

/-- Nothing is told of anything but directives. -/
structure OnlyDirectives (telling : Telling ι) : Prop where
  opening : ∀ event, event.entity ≠ .directive → telling.opening event = []
  closing : ∀ event, event.entity ≠ .directive → telling.closing event = []

namespace OnlyDirectives

theorem around_eq (only : telling.OnlyDirectives) {before after : Event} (content : List ι)
    (above : before.entity ≠ .directive) (above' : after.entity ≠ .directive)
    : telling.around before content after = content := by
  rw [around, only.opening before above, only.closing after above', List.nil_append,
    List.append_nil]

/-- What is told of steps is what is told of their directives, by induction on the steps. -/
theorem ofSteps_eq (only : telling.OnlyDirectives) {steps : List Step} {results : List Result}
    (ran : List.Forall₂ Step.IsResult steps results)
    : telling.ofSteps steps results
      = (results.flatMap Result.children).flatMap telling.ofDirective := by
  induction ran with
  | nil => rfl
  | @cons step result steps results _ _ ih =>
      have first : telling.ofStep step result = result.children.flatMap telling.ofDirective :=
        only.around_eq _ (by simp [Event.entity]) (by simp [Event.entity])
      rw [List.flatMap_cons, List.flatMap_append, ← ih, ← first]
      rfl

/-- What is told of tasks is what is told of the directives below their nodes: those of the
prerequisites come first in both. The induction is on what runs.
-/
theorem ofTasks_eq (only : telling.OnlyDirectives) {registry : TaskRegistry}
    {chain names : List String} {nodes : List Result} {items : List ι}
    (ran : telling.OfTasks registry chain names nodes items)
    : items = (directivesBelow nodes).flatMap telling.ofDirective := by
  induction ran with
  | nil => rfl
  | underWay _ _ ih => exact ih
  | unknown _ _ _ ih => exact ih
  | @runs chain name rest nodes items task before content children _ _ _ steps _ first later =>
      have own : directivesBelow ({ name, children } :: nodes)
          = children.flatMap Result.children ++ directivesBelow nodes :=
        List.flatMap_cons
      rw [only.around_eq _ (by simp [Event.entity]) (by simp [Event.entity]),
        only.ofSteps_eq steps, first, later, directivesBelow_append, own]
      simp only [List.flatMap_append, List.append_assoc]

theorem ofName_eq (only : telling.OnlyDirectives) {context : Context} {plan : Plan}
    {name : String} {nodes : List Result} {items : List ι}
    (ran : telling.OfName context plan name nodes items)
    : items = (directivesBelow nodes).flatMap telling.ofDirective := by
  cases ran with
  | unknown => rfl
  | unlaunched => rfl
  | runs _ task => exact only.ofTasks_eq task

/-- What is told of a plan is what is told of the directives in its result. -/
theorem ofPlan_eq (only : telling.OnlyDirectives) {context : Context} {plan : Plan}
    {result : Result} {items : List ι} (ran : telling.OfPlan context plan result items)
    : items = result.directiveNodes.flatMap telling.ofDirective := by
  obtain ⟨names⟩ := ran
  rw [only.around_eq _ (by simp [Event.entity]) (by simp [Event.entity]), Result.directiveNodes]
  generalize Run.order context plan = order at names
  induction names with
  | nil => rfl
  | cons first _ ih =>
      rw [List.flatMap_cons, List.flatMap_cons, directivesBelow_append, List.flatMap_append, ih,
        only.ofName_eq first]

end OnlyDirectives

end Telling

-----------------------------------------------------------------------------------------
-- The directives that are carried out
-----------------------------------------------------------------------------------------

/-- The results of the directives that were carried out in a part of a run. -/
def dispatchedResults (chronicle : List Moment) : List Result :=
  (dispatchesOf chronicle).map fun record => record.dispatched.result

/-- Of directives, that they are carried out. -/
def Telling.dispatches : Telling Result where
  opening _ := []
  closing _ := []
  dispatch result := [result]

theorem Telling.onlyDirectives_dispatches : Telling.dispatches.OnlyDirectives :=
  ⟨fun _ _ => rfl, fun _ _ => rfl⟩

/-- The directives that are carried out are read out of the moments of a run. -/
theorem Context.readBy_dispatchedResults (context : Context)
    : Telling.dispatches.ReadBy context dispatchedResults where
  append _ _ := by rw [dispatchedResults, dispatchesOf_append, List.map_append]; rfl
  opening _ := by rw [dispatchedResults, dispatchesOf_noticed]; rfl
  closing _ := by rw [dispatchedResults, dispatchesOf_noticed]; rfl
  dispatched _ := rfl
  browsed _ _ := by rw [dispatchedResults, dispatchesOf_browsed]; rfl
  stepsBegin _ := rfl
  stepsEnd _ := rfl

-----------------------------------------------------------------------------------------
-- The lines of directives on the console
-----------------------------------------------------------------------------------------

namespace Console

/-- The lines that tell of directives among those that notices give. -/
def directiveLines (notices : List Notice) : List String :=
  lines (notices.filter fun notice => notice.event.entity == .directive)

/-- The line for a directive with a result: it is marked if that carries a failure. -/
def directiveLine (result : Result) : String :=
  "\t\t- " ++ result.name ++ if result.isFailed then " ... FAIL" else ""

theorem directiveLines_append (notices others : List Notice)
    : directiveLines (notices ++ others) = directiveLines notices ++ directiveLines others := by
  simp only [directiveLines, lines, List.filter_append, List.filterMap_append]

/-- Among the callbacks that are called for an event, those of the console give its lines. -/
theorem lines_heard (callbacks : List Callback) (phases : List Phase) (event : Event)
    : lines (Callback.heard callbacks phases event)
      = phases.flatMap fun phase =>
          ((callbacks.filter fun callback => callback.listener == .console).filter
            fun callback => callback.hears phase event).filterMap fun _ => line? phase event := by
  rw [lines, Callback.heard, List.filter_flatMap, List.filterMap_flatMap]
  refine congrArg (phases.flatMap ·) (funext fun phase => ?_)
  conv_rhs => rw [← List.zipIdx_map_fst 0 callbacks]
  simp only [List.filter_map, List.filterMap_map, List.filter_filter, Function.comp_def]
  simp only [Bool.and_comm]

/-- The lines of directives come of events about directives. -/
theorem directiveLines_heard (callbacks : List Callback) (phases : List Phase) (event : Event)
    : directiveLines (Callback.heard callbacks phases event)
      = if event.entity == .directive then lines (Callback.heard callbacks phases event)
        else [] := by
  have about : ∀ notice ∈ Callback.heard callbacks phases event, notice.event = event := by
    simp only [Callback.heard, List.mem_flatMap, List.mem_map]
    rintro notice ⟨_, _, _, _, rfl⟩
    rfl
  rw [directiveLines]
  split
  next above =>
    rw [List.filter_eq_self.mpr]
    intro notice member
    rw [about notice member, above]
  next other =>
    rw [List.filter_eq_nil_iff.mpr]
    · rfl
    · intro notice member
      rwa [about notice member]

/-- The console is among the callbacks, registered once. -/
def IsRegistered (callbacks : List Callback) : Prop :=
  callbacks.filter (fun callback => callback.listener == .console) = Console.callbacks

end Console

/-- Of directives, their lines on the console. -/
def Context.printing (context : Context) : Telling String where
  opening event := Console.directiveLines (Callback.heard context.callbacks Phase.opening event)
  closing event := Console.directiveLines (Callback.heard context.callbacks Phase.closing event)
  dispatch _ := []

namespace Context

/-- The lines of directives are read out of the moments of a run. -/
theorem readBy_directiveLines (context : Context)
    : context.printing.ReadBy context fun moments =>
        Console.directiveLines (noticesOf moments) where
  append _ _ := by rw [noticesOf_append, Console.directiveLines_append]
  opening _ := by rw [noticesOf_noticed]; rfl
  closing _ := by rw [noticesOf_noticed]; rfl
  dispatched _ := rfl
  browsed _ _ := by rw [noticesOf_browsed]; rfl
  stepsBegin _ := rfl
  stepsEnd _ := rfl

theorem onlyDirectives_printing (context : Context) : context.printing.OnlyDirectives where
  opening _ other := (Console.directiveLines_heard _ _ _).trans (if_neg (by simpa using other))
  closing _ other := (Console.directiveLines_heard _ _ _).trans (if_neg (by simpa using other))

/-- A directive has one line, which is printed once its result is known. -/
theorem printing_ofDirective {context : Context} (console : Console.IsRegistered context.callbacks)
    (result : Result)
    : context.printing.ofDirective result = [Console.directiveLine result] := by
  have before : context.printing.opening (.directive result.name none) = [] := by
    refine (Console.directiveLines_heard _ _ _).trans ?_
    rw [Console.lines_heard, console]
    rfl
  have after
      : context.printing.closing (.directive result.name (some result))
        = [Console.directiveLine result] := by
    refine (Console.directiveLines_heard _ _ _).trans ?_
    rw [Console.lines_heard, console]
    rfl
  rw [Telling.ofDirective, Telling.around, before, after]
  rfl

end Context

-----------------------------------------------------------------------------------------
-- Tree, directives and console side by side
-----------------------------------------------------------------------------------------

/-- The result of a plan shows what has happened while the plan ran in an environment. The
directives that were written down have been carried out one after another in the sessions of the
plan, each once; its nodes of directives are their results, in the same order; and each of these
nodes has its line on the console, again in the same order.
-/
structure Result.Shows (result : Result) (context : Context) (environment : String) (log : RunLog)
    : Prop where
  carriedOut : context.Carries environment log.chronicle log.sessions
  dispatched : dispatchedResults log.chronicle = result.directiveNodes
  printed
    : Console.IsRegistered context.callbacks
      → Console.directiveLines (noticesOf log.chronicle)
        = result.directiveNodes.map Console.directiveLine

namespace Run

/-- If none of the callbacks called in a run refuses to go on, the run is that of its plans, one
after another, and the result of every plan shows what has happened while that plan ran, whatever
its tasks require.
-/
theorem results_show_order {context : Context} {plans : List Plan}
    (silent : ∀ notice ∈ (ofPlans context plans).notices, context.refusal? notice = none)
    : ∃ parts : List (Result × RunLog),
        (ofPlans context plans).ending = .ok (parts.map Prod.fst)
        ∧ (ofPlans context plans).log.sessions = parts.flatMap (fun part => part.2.sessions)
        ∧ (ofPlans context plans).log.chronicle
          = (Callback.heard context.callbacks Phase.opening (.run none)).map .noticed
            ++ parts.flatMap (fun part => part.2.chronicle)
            ++ (Callback.heard context.callbacks Phase.closing
                (.run (some (parts.map Prod.fst)))).map .noticed
        ∧ List.Forall₂
            (fun plan part =>
              part.1.name = plan.name ∧ part.1.Shows context plan.environment part.2)
            plans parts := by
  obtain ⟨results, ended⟩ := exists_results_of_silent silent
  let told (plan : Plan) (result : Result) (log : RunLog) : Prop :=
    result.name = plan.name ∧ result.Shows context plan.environment log
  have each (plan : Plan)
      : Tells (runPlan context plan) fun result sessions moments =>
          told plan result ⟨moments, sessions⟩ := by
    refine ((tells_of_leadsBy (leadsBy_runPlan context plan)).and
      ((tells_runPlan context.readBy_dispatchedResults plan).and
        (tells_runPlan context.readBy_directiveLines plan))).mono ?_
    rintro result sessions moments ⟨carriedOut, dispatched, printed⟩
    have dispatched' := Telling.onlyDirectives_dispatches.ofPlan_eq dispatched
    have printed' := context.onlyDirectives_printing.ofPlan_eq printed
    refine ⟨dispatched.name, carriedOut, ?_, fun console => ?_⟩
    · exact dispatched'.trans (List.flatMap_singleton' _)
    · rw [printed', funext (Context.printing_ofDirective console), List.map_eq_flatMap]
  have whole : outcome (runAll context plans) {} = (.ok results, (ofPlans context plans).log) :=
    Prod.ext ended rfl
  obtain ⟨_, _, gained, grown, parts, shown, rfl, rfl, rfl⟩ := tells_runAll each plans whole
  exact ⟨parts, ended, gained, grown, shown⟩

end Run

theorem Context.NeverRefuses.refusal?_eq_none {context : Context} (passes : context.NeverRefuses)
    (notice : Notice)
    : context.refusal? notice = none := by
  rw [refusal?]
  cases called : context.callbacks[notice.place]? with
  | none => rfl
  | some callback => simp [passes callback (List.mem_of_getElem? called)]

/-- Two tasks that need each other, with one directive each, only one of which is of a known form,
heard of by the console and by a callback that was registered before it.
-/
def printingContext : Context where
  directives :=
    ((∅ : DirectiveRegistry).register "^two$" none fun _ => pure none).toOption.getD ∅
  callbacks := ⟨.transcript, .directive, .after, fun _ => none⟩ :: Console.callbacks
  tasks :=
    { entries := .ofList
        [("first",
            { name := "first", prerequisites := ["second"],
              steps := [{ name := "step", directives := ["one"] }] }),
          ("second",
            { name := "second", prerequisites := ["first"],
              steps := [{ name := "step", directives := ["two"] }] })]
      named := by decide }
  environments := .ofList [("memory", .site ∅)]

/-- A plan with the first of these tasks. -/
def printingPlan : Plan where
  name := "plan"
  environment := "Memory"
  tasks := ["first"]

/-- The directive of the task that is required comes first, on the console as in the tree; it is
carried out, and the other one is not known.
-/
theorem Run.results_show_order_of_cycle
    : (∀ notice ∈ (ofPlans printingContext [printingPlan]).notices,
          printingContext.refusal? notice = none)
      ∧ Console.IsRegistered printingContext.callbacks
      ∧ ∃ result log,
          (ofPlans printingContext [printingPlan]).ending = .ok [result]
          ∧ result.Shows printingContext "Memory" log
          ∧ (ofPlans printingContext [printingPlan]).log.sessions = log.sessions
          ∧ Console.directiveLines (ofPlans printingContext [printingPlan]).notices
            = ["\t\t- two", "\t\t- one ... FAIL"] := by
  have silent : ∀ notice ∈ (ofPlans printingContext [printingPlan]).notices,
      printingContext.refusal? notice = none := by
    have passes : printingContext.NeverRefuses := by
      simp [Context.NeverRefuses, printingContext, Console.callbacks]
    exact fun notice _ => passes.refusal?_eq_none notice
  obtain ⟨parts, ended, gained, _, shown⟩ := results_show_order silent
  obtain ⟨⟨result, log⟩, others, ⟨_, first⟩, rest, rfl⟩ := List.forall₂_cons_left_iff.mp shown
  cases rest
  refine ⟨silent, rfl, result, log, ended, first, by simpa using gained, ?_⟩
  have order : order printingContext printingPlan = ["first"] := by decide +kernel
  have found : printingContext.tasks.get? "first"
      = some
          { name := "first", prerequisites := ["second"],
            steps := [{ name := "step", directives := ["one"] }] } := by
    decide +kernel
  have found' : printingContext.tasks.get? "second"
      = some
          { name := "second", prerequisites := ["first"],
            steps := [{ name := "step", directives := ["two"] }] } := by
    decide +kernel
  simp only [ofPlans, runAll, runPlans, runPlan, order, runTasks, runTask, found, Act.runTask,
    Act.runNested, Act.runPrerequisites, Act.runPrerequisite_eq, found', List.nil_append,
    List.cons_append, List.contains_cons, List.contains_nil, String.reduceBEq, Bool.or_false,
    Bool.false_eq_true, ↓reduceIte]
  decide +kernel

end Rehearsal
