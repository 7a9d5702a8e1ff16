import Rehearsal.Config
import Rehearsal.Library
import Rehearsal.Lifecycle.Console
import Rehearsal.Run
import Rehearsal.Suite
import Rehearsal.Summary

/-!
The commands of the program: running the plans of a suite, printing the order of their tasks, and
setting up a suite. A run ends with a code of its own exactly if a plan holds a failure.
-/

namespace Rehearsal

/-- What the program is asked to do. -/
inductive Command where
  /-- Runs every plan of a suite and perhaps writes a report. -/
  | run (directory : String) (report : Option String)
  /-- Prints the order in which the tasks of every plan run. -/
  | order (directory : String)
  /-- Writes the usual configuration and makes a directory for tasks. -/
  | setUp (directory : String) (force : Bool)
deriving DecidableEq, Repr

/-- What the program has done. -/
structure Outcome where
  /-- The code with which the program ends. -/
  code : Nat := 0
  /-- What is printed. -/
  output : String := ""
  /-- What is printed as an error. -/
  complaint : String := ""
deriving DecidableEq, Repr

namespace Outcome

/-- The code of a program that did what it was asked to do. -/
def success : Nat := 0

/-- The code of a program that could not do what it was asked to do. -/
def invalid : Nat := 1

/-- The code of a program that could not tell what it was asked to do. -/
def misuse : Nat := 2

/-- The code of a run with failures. -/
def failed : Nat := 4

/-- The outcome of a program that could not do what it was asked to do. -/
def refused (output message : String) : Outcome :=
  { code := invalid, output, complaint := message ++ "\n" }

end Outcome

namespace Command

/-- The environment in which every site is empty. -/
def memoryEnvironment : String := "memory"

/-- What a run of a suite reads. -/
def context (config : Config) (tasks : TaskRegistry) : Except DirectiveForm.Refusal Context := do
  let interval := config.pollInterval * Duration.millisecond
  let start : Context :=
    { directives := ← Library.register (.every interval) ∅, callbacks := Console.callbacks, tasks }
  return start.addEnvironment memoryEnvironment (.site ∅)

/-- The code for a run with a summary. -/
def codeOf (summary : Summary) : Nat :=
  if summary.isClean then Outcome.success else Outcome.failed

/-- The lines that name the tasks of a plan in their order. -/
def orderText (tasks : TaskRegistry) (plan : Plan) : String :=
  let lines := (Order.ofTasks tasks.setups plan.tasks).map fun task => "  " ++ task ++ "\n"
  plan.name ++ ":\n" ++ String.join lines

variable {m : Type → Type} [Monad m] [Files m]

/-- Loads a suite and its configuration; the words of what prevents it. -/
def loadSuite (directory : String) : ExceptT String m (Config × Suite) := do
  let path := Path.join directory Config.fileName
  let config ← (Config.load path : ExceptT Config.Fault m Config).adapt Config.Fault.message
  let suite ←
    (Suite.load directory config.tasksDirectory : ExceptT Suite.Fault m Suite).adapt
      Suite.Fault.message
  return (config, suite)

/-- Writes a report and makes the directories that it lies in; the words of what prevents it. -/
def writeReport (path report : String) : ExceptT String m Unit := do
  let directory := (Path.parent? path).getD ""
  let problem (place : String) (fault : FileFault) : String := place ++ ": " ++ fault.message
  (Files.makeDirectories directory : ExceptT FileFault m Unit).adapt
    (problem ("create directory " ++ directory))
  (Files.write path report : ExceptT FileFault m Unit).adapt (problem ("write " ++ path))

/-- Runs the plans of a suite. -/
def runSuite (directory : String) (report : Option String) : m Outcome := do
  match ← (loadSuite directory : ExceptT String m (Config × Suite)).run with
  | .error message => return .refused "" message
  | .ok (config, suite) =>
      match context config suite.tasks with
      | .error refusal => return .refused "" refusal.message
      | .ok context =>
          let run := Run.ofPlans context suite.plans
          let progress := Console.output run.notices
          match run.ending with
          | .error refusal => return .refused progress refusal.message
          | .ok results =>
              let summary := Summary.ofResults results
              let output := progress ++ summary.text
              match report.or (config.reportPath.map (Path.join directory)) with
              | none => return { code := codeOf summary, output }
              | some path =>
                  let written ← (writeReport path (summary.report results)).run
                  match written with
                  | .error message => return .refused output message
                  | .ok () => return { code := codeOf summary, output }

/-- Prints the order of the tasks of every plan. -/
def printOrder (directory : String) : m Outcome := do
  match ← (loadSuite directory : ExceptT String m (Config × Suite)).run with
  | .error message => return .refused "" message
  | .ok (_, suite) =>
      return { output := String.join (suite.plans.map (orderText suite.tasks)) }

/-- Sets up a suite; the words of what prevents it. -/
def prepare (directory : String) (force : Bool) : ExceptT String m Unit := do
  let path := Path.join directory Config.fileName
  let config : Config := {}
  if !force && (← (Files.isThere path : m Bool)) then
    throw (path ++ " already exists (use --force to overwrite)")
  (Config.store path config : ExceptT Config.Fault m Unit).adapt Config.Fault.message
  let tasks := Path.join directory config.tasksDirectory
  (Files.makeDirectories tasks : ExceptT FileFault m Unit).adapt fun fault =>
    "create directory " ++ tasks ++ ": " ++ fault.message

/-- Does what the program is asked to do. -/
def perform : Command → m Outcome
  | run directory report => runSuite directory report
  | order directory => printOrder directory
  | setUp directory force => do
      match ← (prepare directory force : ExceptT String m Unit).run with
      | .error message => return .refused "" message
      | .ok () => return {}

end Command

end Rehearsal
