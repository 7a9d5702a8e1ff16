import Rehearsal.Command.Arguments

/-!
The program: its arguments are carried out on the files of the system.
-/

namespace Rehearsal

/-- The fault that an error of the system stands for. -/
def FileFault.ofError : IO.Error → FileFault
  | .alreadyExists _ number reason | .inappropriateType _ number reason
  | .interrupted _ number reason | .invalidArgument _ number reason
  | .noFileOrDirectory _ number reason | .noSuchThing _ number reason
  | .permissionDenied _ number reason | .resourceExhausted _ number reason
  | .otherError number reason | .resourceBusy number reason
  | .resourceVanished number reason | .unsupportedOperation number reason
  | .hardwareFault number reason | .unsatisfiedConstraints number reason
  | .illegalOperation number reason | .protocolError number reason
  | .timeExpired number reason => .system number.toNat reason
  | .unexpectedEof => .system 0 "Unexpected end of file"
  | .userError reason => .system 0 reason

/-- An action whose errors are faults. -/
def attempt {α : Type} (action : IO α) : ExceptT FileFault IO α :=
  ExceptT.mk (tryCatch (Except.ok <$> action) fun error => pure (.error (.ofError error)))

instance : Files IO where
  kind? path :=
    tryCatch (do
      let found ← IO.FS.realPath path
      if ← found.isDir then return some .directory
      else if ← found.pathExists then return some .file
      else return none) fun _ => return none
  names path := attempt do
    let entries ← (← IO.FS.realPath path).readDir
    return entries.toList.map fun entry => entry.fileName
  read path := attempt (IO.FS.readBinFile path)
  makeDirectory path := attempt (IO.FS.createDir path)
  write path text := attempt (IO.FS.writeFile path text)
  rename source target := attempt (IO.FS.rename source target)

end Rehearsal

/-- Carries out the arguments of the program. -/
def main (arguments : List String) : IO UInt32 := do
  let outcome : Rehearsal.Outcome ← Rehearsal.Command.performArguments arguments
  IO.print outcome.output
  IO.eprint outcome.complaint
  return outcome.code.toUInt32
