import Rehearsal.Proofs.Run.Traversal
import Rehearsal.Proofs.Run.Tree

/-! The callbacks that are called in the course of a run, where none of them refuses to go on: they
enclose the content of everything that runs, and hear of the node that it gets in the tree of
results.
-/

namespace Rehearsal

/-- The callbacks that hear of a run: those meant for an event are called in the phases ahead of its
content and in the phases behind it.
-/
def Context.hearing (context : Context) : Telling Notice where
  opening := Callback.heard context.callbacks Phase.opening
  closing := Callback.heard context.callbacks Phase.closing
  dispatch _ := []

/-- The callbacks that hear of a run are read out of its moments. -/
theorem Context.readBy_noticesOf (context : Context)
    : context.hearing.ReadBy context noticesOf where
  append := noticesOf_append
  opening _ := noticesOf_noticed _
  closing _ := noticesOf_noticed _
  dispatched _ := rfl
  browsed := noticesOf_browsed
  stepsBegin _ := rfl
  stepsEnd _ := rfl

namespace Run

/-- If no callback refuses to go on, a run ends well and the calls of callbacks enclose one another
as what runs does. Whatever has a node in the tree of results is announced in the phases before and
again, with that node, in the phases after, in each of them to the callbacks meant for it in the
order of their registration; in between stand the calls for its content. That of a task is its
prerequisites and then its steps, that of a step the directives with a node in it; names that are
unknown, under way or without an environment call nothing.
-/
theorem callbacks_enclose {context : Context} (passes : context.NeverRefuses) (plans : List Plan)
    : ∃ results,
        (ofPlans context plans).ending = .ok results
        ∧ context.hearing.OfRun context plans results (ofPlans context plans).notices := by
  obtain ⟨results, after, ended, _⟩ := yields_runAll passes plans {}
  have whole : (ofPlans context plans).ending = .ok results := congrArg Prod.fst ended
  exact ⟨results, whole, told_of_ended context.readBy_noticesOf whole⟩

/-- The two tasks that need each other, each announced before its content and after it. -/
def enclosingContext : Context :=
  { cyclicContext with
    callbacks :=
      [{ listener := .transcript, entity := .task, phase := .after },
        { listener := .console, entity := .task, phase := .before }] }

/-- The task that needs the other encloses it, although its node stands behind the other's. -/
theorem callbacks_enclose_cycle
    : enclosingContext.NeverRefuses
      ∧ ∃ results,
          (ofPlans enclosingContext [cyclicPlan]).ending = .ok results
          ∧ enclosingContext.hearing.OfRun enclosingContext [cyclicPlan] results
              (ofPlans enclosingContext [cyclicPlan]).notices
          ∧ (ofPlans enclosingContext [cyclicPlan]).notices.map (fun notice => notice.event.name)
            = ["first", "second", "second", "first"] := by
  have passes : enclosingContext.NeverRefuses := by
    intro callback member event
    rcases List.mem_pair.mp member with rfl | rfl <;> rfl
  obtain ⟨results, ended, heard⟩ := callbacks_enclose passes [cyclicPlan]
  refine ⟨passes, results, ended, heard, ?_⟩
  have order : order enclosingContext cyclicPlan = ["first"] := by decide +kernel
  have first : enclosingContext.tasks.get? "first"
      = some { name := "first", prerequisites := ["second"], steps := [{ name := "only" }] } := by
    decide +kernel
  have second : enclosingContext.tasks.get? "second"
      = some { name := "second", prerequisites := ["first", "third"] } := by
    decide +kernel
  have third : enclosingContext.tasks.get? "third" = none := by decide +kernel
  simp only [ofPlans, runAll, runPlans, runPlan, order, runTasks, runTask, first, Act.runTask,
    Act.runNested, Act.runPrerequisites, Act.runPrerequisite_eq, second, third, List.nil_append,
    List.cons_append, List.contains_cons, List.contains_nil, String.reduceBEq, Bool.or_false,
    Bool.false_eq_true, ↓reduceIte]
  decide +kernel

end Run

end Rehearsal
