import Rehearsal.Files
import Rehearsal.Toml.Document
import Rehearsal.Toml.Printer

/-!
The configuration of a suite, which a TOML file beside its plans may hold. A configuration that
is written reads back as itself.
-/

namespace Rehearsal

/-- The configuration of a suite. -/
structure Config where
  /-- The time between two attempts of a directive that polls, in milliseconds. -/
  pollInterval : Nat := 200
  /-- Where the tasks are, seen from the suite. -/
  tasksDirectory : String := "testcases"
  /-- Where the report is written, seen from the suite. -/
  reportPath : Option String := none
deriving DecidableEq, Repr

namespace Config

/-- The name of the file that holds the configuration of a suite. -/
def fileName : String := "harmony.toml"

/-- What is wrong with the values of a configuration. -/
inductive Complaint where
  | zeroInterval
  | emptyTasksDirectory
deriving DecidableEq, Repr

/-- The wording of a complaint. -/
def Complaint.message : Complaint → String
  | zeroInterval => "poll_interval_ms must be > 0"
  | emptyTasksDirectory => "tasks_dir must not be empty"

/-- Refuses values with which no suite can run. -/
def validate (config : Config) : Except Complaint Unit :=
  if config.pollInterval == 0 then .error .zeroInterval
  else if config.tasksDirectory.isEmpty then .error .emptyTasksDirectory
  else .ok ()

/-- Why a configuration could not be loaded or stored. -/
inductive Fault where
  | unreadable (path : String) (fault : FileFault)
  | malformed (path : String) (fault : Toml.Fault)
  | invalid (path : String) (complaint : Complaint)
  | refused (complaint : Complaint)
  | noDirectory (path : String) (fault : FileFault)
  | unwritten (path : String) (fault : FileFault)
  | unreplaced (path : String) (fault : FileFault)
deriving DecidableEq, Repr

/-- The wording of a fault. -/
def Fault.message : Fault → String
  | unreadable path fault => "read " ++ path ++ ": " ++ fault.message
  | malformed path fault => "parse " ++ path ++ ": " ++ fault.message
  | invalid path complaint => "invalid config " ++ path ++ ": " ++ complaint.message
  | refused complaint => complaint.message
  | noDirectory path fault => "create directory " ++ path ++ ": " ++ fault.message
  | unwritten path fault => "write temp config " ++ path ++ ": " ++ fault.message
  | unreplaced path fault => "replace config " ++ path ++ ": " ++ fault.message

/-- The number of a key that holds one: not below zero, and of 64 binary digits. -/
def interval? : Toml.Value → Except Toml.Fault Nat
  | .integer value => if 0 ≤ value && value < Nat.pow 2 64 then .ok value.toNat else .error .type
  | _ => .error .type

/-- The text of a key that holds one. -/
def text? : Toml.Value → Except Toml.Fault String
  | .string text => .ok text
  | _ => .error .type

/-- The configuration that the entries of a document give; what they leave out is as usual, and
other keys are passed over. -/
def ofEntries (entries : Toml.Entries) : Except Toml.Fault Config := do
  let pollInterval ← (entries.get? "poll_interval_ms").mapM interval?
  let tasksDirectory ← (entries.get? "tasks_dir").mapM text?
  let reportPath ← (entries.get? "report_path").mapM text?
  let usual : Config := {}
  return { pollInterval := pollInterval.getD usual.pollInterval,
           tasksDirectory := tasksDirectory.getD usual.tasksDirectory, reportPath }

/-- The configuration that a text gives. -/
def ofText (text : String) : Except Toml.Fault Config := do
  ofEntries (← Toml.Entries.ofText text)

/-- The text of a configuration. -/
def text (config : Config) : String :=
  "poll_interval_ms = " ++ toString config.pollInterval ++ "\n"
    ++ "tasks_dir = " ++ Toml.quote config.tasksDirectory ++ "\n"
    ++ (config.reportPath.elim "" fun path => "report_path = " ++ Toml.quote path ++ "\n")
    ++ "\n"

variable {m : Type → Type} [Monad m] [Files m]

/-- Loads the configuration in a file; without the file everything is as usual. -/
def load (path : String) : ExceptT Fault m Config := do
  if !(← (Files.isThere path : m Bool)) then return {}
  let text ← (Files.readText path : ExceptT FileFault m String).adapt (.unreadable path)
  let config ← MonadExcept.ofExcept ((ofText text).mapError (.malformed path))
  MonadExcept.ofExcept (config.validate.mapError (.invalid path))
  return config

/-- Stores a configuration in a file: it is written under another name first. -/
def store (path : String) (config : Config) : ExceptT Fault m Unit := do
  MonadExcept.ofExcept (config.validate.mapError .refused)
  let directory := (Path.parent? path).getD ""
  let draft := path ++ ".tmp"
  (Files.makeDirectories directory : ExceptT FileFault m Unit).adapt (.noDirectory directory)
  (Files.write draft config.text : ExceptT FileFault m Unit).adapt (.unwritten draft)
  (Files.rename draft path : ExceptT FileFault m Unit).adapt (.unreplaced path)

end Config

end Rehearsal
