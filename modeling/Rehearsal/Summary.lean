import Rehearsal.Result.Json
import Rehearsal.Json.Printer

/-!
The summary of a run: how many plans ran, how many of them hold a failure, and where each failure
lies, with the failing directives of one step kept together.
-/

namespace Rehearsal

/-- The failure of one directive. -/
structure DirectiveFailure where
  directive : String
  reason : String
deriving DecidableEq, Repr

/-- An itemised place of failure. -/
inductive ErrorEntry where
  /-- A plan, task or step that failed on its own. -/
  | single (location reason : String)
  /-- The failing directives of one step. -/
  | grouped (location : String) (directives : List DirectiveFailure)
deriving DecidableEq, Repr

/-- The place that an entry is about. -/
def ErrorEntry.location : ErrorEntry → String
  | single location _ => location
  | grouped location _ => location

/-- The outcome of a run in numbers and places. -/
structure Summary where
  planCount : Nat := 0
  inError : Nat := 0
  errors : List ErrorEntry := []
deriving DecidableEq, Repr

namespace Summary

/-- Whether no plan holds a failure. -/
def isClean (summary : Summary) : Bool :=
  summary.inError == 0

/-- The entry for a node's own failure, if it has one. -/
def ownEntry (location : String) (result : Result) : List ErrorEntry :=
  match result.error with
  | some failure => [.single location failure.reason]
  | none => []

/-- The failing directives among the children of a step. -/
def failingDirectives (step : Result) : List DirectiveFailure :=
  step.children.filterMap fun directive =>
    directive.error.map fun failure => ⟨directive.name, failure.reason⟩

/-- The entries of a step: its own failure and then its failing directives. -/
def stepEntries (location : String) (step : Result) : List ErrorEntry :=
  ownEntry location step ++
    match failingDirectives step with
    | [] => []
    | directives => [.grouped location directives]

/-- The entries of a task and of its steps. -/
def taskEntries (location : String) (task : Result) : List ErrorEntry :=
  ownEntry location task
    ++ task.children.flatMap fun step => stepEntries (location ++ "(" ++ step.name ++ ")") step

/-- The entries of a plan and of its tasks. -/
def planEntries (plan : Result) : List ErrorEntry :=
  ownEntry plan.name plan
    ++ plan.children.flatMap fun task => taskEntries (plan.name ++ " - " ++ task.name) task

/-- Summarizes the results of a run, one for each plan. -/
def ofResults (plans : List Result) : Summary where
  planCount := plans.length
  inError := plans.countP Result.hasFailure
  errors := plans.flatMap planEntries

/-- The lines of an entry. -/
def entryText : ErrorEntry → String
  | .single location reason => "  " ++ location ++ ": " ++ reason ++ "\n"
  | .grouped location directives =>
      "  " ++ location ++ ":\n"
        ++ String.join (directives.map fun failure =>
            "    - " ++ failure.directive ++ ": " ++ failure.reason ++ "\n")

/-- The summary as it is printed at the end of a run. -/
def text (summary : Summary) : String :=
  "Ran " ++ toString summary.planCount ++ " test plan(s), " ++ toString summary.inError
    ++ " in error.\n"
    ++ if summary.errors.isEmpty then ""
      else "Errors:\n" ++ String.join (summary.errors.map entryText)

/-- An entry as a JSON value. -/
def entryJson : ErrorEntry → Json
  | .single location reason =>
      .object [("location", .string location), ("reason", .string reason)]
  | .grouped location directives =>
      .object
        [("location", .string location),
          ("directives", .array (directives.map fun failure =>
            .object [("directive", .string failure.directive),
              ("reason", .string failure.reason)]))]

/-- The summary as a JSON value. -/
def toJson (summary : Summary) : Json :=
  .object
    [("plan_count", .count summary.planCount), ("in_error", .count summary.inError),
      ("errors", .array (summary.errors.map entryJson))]

/-- The report of a run: the summary and the whole result trees, indented, with a final line
break. -/
def report (summary : Summary) (results : List Result) : String :=
  Json.pretty 0 (.object
    [("summary", summary.toJson), ("results", .array (Result.toJsonList results))]) ++ "\n"

end Summary

end Rehearsal
