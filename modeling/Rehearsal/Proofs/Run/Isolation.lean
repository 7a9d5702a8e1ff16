import Rehearsal.Proofs.Library.Forms
import Rehearsal.Proofs.Library.Timing
import Rehearsal.Proofs.Run.Contribution
import Rehearsal.Proofs.Run.Tree

/-! Tasks are isolated from each other: what a name in the order of a plan contributes to a run is
settled by its plan, its environment and the tasks that it has run before it, whatever else runs.
-/

namespace Rehearsal

theorem Context.NeverRefuses.refusesAs {context other : Context} (passes : context.NeverRefuses)
    (passes' : other.NeverRefuses)
    : context.RefusesAs other :=
  fun event phases =>
    (Callback.announce_passes passes event phases).trans
      (Callback.announce_passes passes' event phases).symm

/-- If no callback refuses to go on, a run ends well. -/
theorem Run.ending_ofPlans {context : Context} (passes : context.NeverRefuses)
    (plans : List Plan)
    : (ofPlans context plans).ending = .ok (plans.map context.resultOf) := by
  obtain ⟨results, after, ended, _⟩ := yields_runAll passes plans {}
  have ending : (ofPlans context plans).ending = .ok results := by rw [ofPlans_eq, ended]
  rw [ending, (ofPlans_eq_contributions ending).1]

/-- Where all agrees that a name depends on, it gives the same results and has the same journal. -/
theorem Context.AgreesOn.contribution_eq {context other : Context} {plan twin : Plan}
    {name : String} (agrees : context.AgreesOn plan other twin name)
    (directives : other.directives = context.directives) (refuses : context.RefusesAs other)
    : other.nodesOf twin name = context.nodesOf plan name
      ∧ other.journalOf? twin name = context.journalOf? plan name := by
  obtain ⟨ending, journal, gained, gained'⟩ := Run.alike_runTask directives refuses agrees {} {}
  constructor
  · rw [nodesOf, nodesOf, ending]
  · rw [journalOf?, journalOf?, sessionOf?, sessionOf?, gained, gained']
    cases journal <;> rfl

/-- A lacking environment is recorded under the name that the plan has for it. -/
theorem Context.nodesOf_of_lacking (context : Context) {plan : Plan} {name : String} {task : Task}
    (found : context.tasks.get? name = some task)
    (lacking : context.environments.get? (environmentKey plan.environment) = none)
    : context.nodesOf plan name = [.failed name (.unknownEnvironment plan.environment)] := by
  unfold nodesOf Run.runTask Context.launch
  rw [found, lacking]
  rfl

/-- With the built-in forms and callbacks that never refuse to go on, a run is put together from
what each name in the order of each plan gives by itself, one after another. That depends on
nothing but the frame and the environment of the plan and on the registered tasks that are reached
from the name through prerequisites: in two runs that agree on these, whatever else they run and
however time passes in them, the name gives the same results and has the same journal.
-/
theorem Run.contributions_isolated {timing : Library.Timing} {context : Context}
    (built : Library.register timing ∅ = .ok context.directives) (passes : context.NeverRefuses)
    : (∀ plans,
        (ofPlans context plans).ending = .ok (plans.map context.resultOf)
        ∧ (ofPlans context plans).log.sessions = plans.flatMap context.sessionsOf)
      ∧ ∀ (timing' : Library.Timing) (other : Context),
          Library.register timing' ∅ = .ok other.directives
          → other.NeverRefuses
          → ∀ plan twin name,
              context.AgreesOn plan other twin name
              → other.nodesOf twin name = context.nodesOf plan name
                ∧ other.journalOf? twin name = context.journalOf? plan name := by
  constructor
  · intro plans
    have ending := ending_ofPlans passes plans
    exact ⟨ending, (ofPlans_eq_contributions ending).2⟩
  · intro timing' other built' passes' plan twin name agrees
    have directives : other.directives = context.directives := by
      rw [Library.register_timing timing' timing, built] at built'
      exact (Except.ok.inj built').symm
    exact agrees.contribution_eq directives (passes.refusesAs passes')

/-- A task that loads a page, and one that runs it first. -/
def visitTasks : TaskRegistry where
  entries := .ofList
    [("home", { name := "home", steps := [{ name := "open", directives := ["load home"] }] }),
      ("visit", { name := "visit", prerequisites := ["home"] })]
  named := by decide

/-- The same tasks beside one that loads another page. -/
def busyTasks : TaskRegistry where
  entries := .ofList
    [("home", { name := "home", steps := [{ name := "open", directives := ["load home"] }] }),
      ("noise", { name := "noise", steps := [{ name := "leave", directives := ["load away"] }] }),
      ("visit", { name := "visit", prerequisites := ["home"] })]
  named := by decide

/-- Some tasks with the built-in forms and one environment. -/
def browsingContext (timing : Library.Timing) (tasks : TaskRegistry) : Context where
  directives := ⟨Library.forms timing⟩
  tasks
  environments := .ofList [("memory", .site ∅)]

/-- Some tasks in one environment. -/
def browsingPlan (environment : String) (tasks : List String) : Plan where
  name := "plan"
  environment
  tasks

theorem browsingContext_neverRefuses (timing : Library.Timing) (tasks : TaskRegistry)
    : (browsingContext timing tasks).NeverRefuses := by
  intro callback member
  cases member

/-- What is reached from the visit is the same beside another task. -/
theorem browsing_agreesOn_visit (timing timing' : Library.Timing) (ahead : List String)
    : (browsingContext timing visitTasks).AgreesOn (browsingPlan "memory" ["visit"])
        (browsingContext timing' busyTasks) (browsingPlan "memory" (ahead ++ ["visit"]))
        "visit" where
  frame := rfl
  environment := rfl
  unknown _ := rfl
  tasks := by
    intro needed path
    have reached : needed = "visit" ∨ needed = "home" := by
      induction path with
      | refl => exact .inl rfl
      | tail _ requires ih =>
          obtain ⟨task, found, member⟩ := requires
          have visit : visitTasks.get? "visit"
              = some { name := "visit", prerequisites := ["home"] } := by
            decide +kernel
          have home : (visitTasks.get? "home").map Task.prerequisites = some [] := by
            decide +kernel
          have known : visitTasks.get? _ = some task := found
          rcases ih with rfl | rfl
          · rw [visit] at known
            cases known
            exact .inr (List.mem_singleton.mp member)
          · rw [known] at home
            rw [Option.some.inj home] at member
            cases member
    change busyTasks.get? needed = visitTasks.get? needed
    rcases reached with rfl | rfl <;> decide +kernel

/-- A visit is the same before and after another task has left the page. -/
theorem Run.visit_isolated
    : Library.register (.every 1) ∅ = .ok (browsingContext (.every 1) visitTasks).directives
      ∧ (browsingContext (.every 1) visitTasks).NeverRefuses
      ∧ (browsingContext (.every 2) busyTasks).nodesOf (browsingPlan "memory" ["noise", "visit"])
          "visit"
        = (browsingContext (.every 1) visitTasks).nodesOf (browsingPlan "memory" ["visit"])
          "visit" := by
  have built : Library.register (.every 1) ∅
      = .ok (browsingContext (.every 1) visitTasks).directives :=
    Library.register_eq (.every 1) ∅
  have built' : Library.register (.every 2) ∅
      = .ok (browsingContext (.every 2) busyTasks).directives :=
    Library.register_eq (.every 2) ∅
  have passes := browsingContext_neverRefuses (.every 1) visitTasks
  obtain ⟨_, isolated⟩ := contributions_isolated built passes
  obtain ⟨same, _⟩ := isolated (.every 2) _ built' (browsingContext_neverRefuses _ _) _ _ _
    (browsing_agreesOn_visit (.every 1) (.every 2) ["noise"])
  exact ⟨built, passes, same⟩

/-- Two plans whose environments are both lacking have different results if they name them
differently, although they agree on everything else.
-/
theorem Run.lacking_environments_told_apart
    : let context := browsingContext (.every 1) visitTasks
      let netscape := browsingPlan "netscape" ["visit"]
      let mosaic := browsingPlan "mosaic" ["visit"]
      Library.register (.every 1) ∅ = .ok context.directives
      ∧ context.NeverRefuses
      ∧ mosaic.frame = netscape.frame
      ∧ context.environments.get? (Context.environmentKey netscape.environment) = none
      ∧ context.environments.get? (Context.environmentKey mosaic.environment) = none
      ∧ (ofPlans context [netscape, mosaic]).ending
        = .ok [context.resultOf netscape, context.resultOf mosaic]
      ∧ context.nodesOf netscape "visit" = [.failed "visit" (.unknownEnvironment "netscape")]
      ∧ context.nodesOf mosaic "visit" ≠ context.nodesOf netscape "visit" := by
  intro context netscape mosaic
  have passes : context.NeverRefuses := browsingContext_neverRefuses _ _
  have found : context.tasks.get? "visit"
      = some { name := "visit", prerequisites := ["home"] } := by
    change visitTasks.get? "visit" = _
    decide +kernel
  have lacking : context.environments.get? (Context.environmentKey netscape.environment) = none :=
    Option.isNone_iff_eq_none.mp (by decide +kernel)
  have lacking' : context.environments.get? (Context.environmentKey mosaic.environment) = none :=
    Option.isNone_iff_eq_none.mp (by decide +kernel)
  have first := context.nodesOf_of_lacking found lacking
  have second := context.nodesOf_of_lacking found lacking'
  refine ⟨Library.register_eq (.every 1) ∅, passes, rfl, lacking, lacking',
    ending_ofPlans passes [netscape, mosaic], first, ?_⟩
  rw [first, second]
  intro same
  injection same with same _
  injection congrArg Result.error same with same
  injection same with same
  exact absurd same (by decide)

end Rehearsal
