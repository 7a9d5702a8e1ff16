import Rehearsal.Files.Path

/-!
Access to files: what a program may ask and change, wherever the files are kept, with the reading
of texts and the making of nested directories.
-/

namespace Rehearsal

/-- Why files could not be read or changed. -/
inductive FileFault where
  /-- A refusal of the system, by its number and reason. -/
  | system (number : Nat) (reason : String)
  /-- The content of a file is no text. -/
  | encoding
deriving DecidableEq, Repr

namespace FileFault

/-- Nothing stands at a path. -/
def missing : FileFault := system 2 "No such file or directory"

/-- Something stands at a path already. -/
def taken : FileFault := system 17 "File exists"

/-- A part of a path is no directory. -/
def notADirectory : FileFault := system 20 "Not a directory"

/-- A directory stands where a file is wanted. -/
def isADirectory : FileFault := system 21 "Is a directory"

/-- The wording of a fault. -/
def message : FileFault → String
  | system number reason => reason ++ " (os error " ++ toString number ++ ")"
  | encoding => "stream did not contain valid UTF-8"

end FileFault

/-- What can stand at a path. -/
inductive FileKind where
  | file
  | directory
deriving DecidableEq, Repr

/-- Access to files from a monad. -/
class Files (m : Type → Type) where
  /-- What stands at a path. -/
  kind? : String → m (Option FileKind)
  /-- The names in a directory, in any order. -/
  names : String → ExceptT FileFault m (List String)
  /-- The content of a file. -/
  read : String → ExceptT FileFault m ByteArray
  /-- Makes a directory in one that is there. -/
  makeDirectory : String → ExceptT FileFault m Unit
  /-- Gives a file, which may be new, a text as its content. -/
  write : String → String → ExceptT FileFault m Unit
  /-- Moves a file to another path, in place of the file there. -/
  rename : String → String → ExceptT FileFault m Unit

namespace Files

variable {m : Type → Type} [Monad m] [Files m]

/-- Whether anything stands at a path. -/
def isThere (path : String) : m Bool :=
  return (← kind? path).isSome

/-- Whether a directory stands at a path. -/
def isDirectory (path : String) : m Bool :=
  return (← kind? path) == some .directory

/-- Whether a file stands at a path. -/
def isFile (path : String) : m Bool :=
  return (← kind? path) == some .file

/-- The content of a file that holds a text. -/
def readText (path : String) : ExceptT FileFault m String := do
  match String.fromUTF8? (← read path) with
  | some text => return text
  | none => throw .encoding

/-- Fails with a fault unless a directory stands at a path. -/
def demandDirectory (path : String) (fault : FileFault) : ExceptT FileFault m Unit := do
  unless ← (isDirectory path : m Bool) do throw fault

/-- Makes a directory, unless it is there. -/
def ensureDirectory (path : String) : ExceptT FileFault m Unit :=
  tryCatch (makeDirectory path) (demandDirectory path)

/-- Makes a directory and those that it lies in, as far as they are missing. -/
def makeDirectoriesFrom : Nat → String → ExceptT FileFault m Unit
  | 0, _ => throw .missing
  | depth + 1, path =>
      if path.isEmpty then pure ()
      else
        tryCatch (makeDirectory path) fun fault =>
          match Path.parent? path with
          | none => demandDirectory path fault
          | some parent =>
              if fault == .missing then do
                makeDirectoriesFrom depth parent
                ensureDirectory path
              else demandDirectory path fault

/-- Makes a directory at a path of any length. -/
def makeDirectories (path : String) : ExceptT FileFault m Unit :=
  makeDirectoriesFrom (path.length + 1) path

end Files

end Rehearsal
