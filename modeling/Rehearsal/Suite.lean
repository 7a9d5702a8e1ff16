import Rehearsal.Files
import Rehearsal.Document
import Rehearsal.Task.Registry

/-!
A suite: the plans in the files of a directory, and the tasks in those of another one, in the
order of the files' names.
-/

namespace Rehearsal

/-- The plans and tasks of a directory. -/
structure Suite where
  plans : List Plan := []
  tasks : TaskRegistry := ∅

namespace Suite

/-- Why a suite could not be loaded. -/
inductive Fault where
  | noDirectory (path : String)
  | unreadable (path : String) (fault : FileFault)
  | planFile (path : String) (fault : Document.Fault)
  | taskFile (path : String) (fault : Document.Fault)
  /-- A file with a task whose name is taken. -/
  | taken (path : String) (duplicate : DuplicateTask)
deriving DecidableEq, Repr

/-- The wording of a fault. -/
def Fault.message : Fault → String
  | noDirectory path => "suite directory " ++ path ++ " does not exist"
  | unreadable path fault => "read " ++ path ++ ": " ++ fault.message
  | planFile path fault => "parse plan file " ++ path ++ ": " ++ fault.message
  | taskFile path fault => "parse task file " ++ path ++ ": " ++ fault.message
  | taken path duplicate => "register task from " ++ path ++ ": " ++ duplicate.message

/-- The extensions of the files that a suite consists of. -/
def extensions : List String := ["yml", "yaml"]

variable {m : Type → Type} [Monad m] [Files m]

/-- The paths of the files in a directory that belong to a suite, in the order of their names. -/
def files (directory : String) : ExceptT Fault m (List String) := do
  let names ←
    (Files.names directory : ExceptT FileFault m (List String)).adapt (.unreadable directory)
  let named := (names.filter (Path.hasExtension extensions)).mergeSort fun a b => a ≤ b
  (named.map (Path.join directory)).filterM fun path => (Files.isFile path : m Bool)

/-- What a file describes. -/
def describedBy {α : Type} (ofText : String → Except Document.Fault α)
    (fault : Document.Fault → Fault) (path : String) : ExceptT Fault m α := do
  let text ← (Files.readText path : ExceptT FileFault m String).adapt (.unreadable path)
  MonadExcept.ofExcept ((ofText text).mapError fault)

/-- The plans in some files. -/
def plansIn (paths : List String) : ExceptT Fault m (List Plan) := do
  return (← paths.mapM fun path => describedBy Plan.listOfText (.planFile path) path).flatten

/-- Adds the task in a file. -/
def addTask (tasks : TaskRegistry) (path : String) : ExceptT Fault m TaskRegistry := do
  let task ← describedBy Task.ofText (.taskFile path) path
  MonadExcept.ofExcept ((tasks.register task).mapError (.taken path))

/-- Loads the suite in a directory. Its tasks are in a directory of their own, which may be
missing. -/
def load (directory tasksDirectory : String) : ExceptT Fault m Suite := do
  if !(← (Files.isDirectory directory : m Bool)) then throw (.noDirectory directory)
  let plans ← plansIn (← files directory)
  let taskPlace := Path.join directory tasksDirectory
  if ← (Files.isDirectory taskPlace : m Bool) then
    return { plans, tasks := ← (← files taskPlace).foldlM addTask ∅ }
  else return { plans }

end Suite

end Rehearsal
