import Rehearsal.Lifecycle

/-!
Progress on the console: one line for each plan, task and step before it runs, and one for each
directive once its result is known.
-/

namespace Rehearsal.Console

/-- The line that announces an event in a phase, if there is one. -/
def line? : Phase → Event → Option String
  | .beforeOutput, .run _ => some "Running Test Plans"
  | .beforeOutput, .plan plan _ => some ("Test Plan: " ++ plan.name)
  | .beforeOutput, .task task _ => some ("\tTest Case: " ++ task.name)
  | .beforeOutput, .step step _ => some ("\t* " ++ step.name)
  | .afterOutput, .directive text (some result) =>
      some ("\t\t- " ++ text ++ if result.isFailed then " ... FAIL" else "")
  | _, _ => none

/-- The callbacks through which the console hears of a run. -/
def callbacks : List Callback :=
  [⟨.console, .all, .beforeOutput, fun _ => none⟩,
    ⟨.console, .testPlan, .beforeOutput, fun _ => none⟩,
    ⟨.console, .task, .beforeOutput, fun _ => none⟩,
    ⟨.console, .step, .beforeOutput, fun _ => none⟩,
    ⟨.console, .directive, .afterOutput, fun _ => none⟩]

/-- The lines that the notices of the console give. -/
def lines (notices : List Notice) : List String :=
  (notices.filter fun notice => notice.listener == .console).filterMap fun notice =>
    line? notice.phase notice.event

/-- What is printed in the course of a run. -/
def output (notices : List Notice) : String :=
  String.join ((lines notices).map fun line => line ++ "\n")

end Rehearsal.Console
