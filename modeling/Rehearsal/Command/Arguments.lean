import Rehearsal.Command
import Rehearsal.Text.Split

/-!
Reading a command from the arguments of the program: the command's word, one directory, and
options before or behind it. An option is given at most once.
-/

namespace Rehearsal.Command

/-- Why arguments are no command. -/
inductive Usage where
  /-- The user asks for help. -/
  | asked
  | mistaken
deriving DecidableEq, Repr

/-- An option. -/
inductive Switch where
  | help
  /-- The path of a report, which follows. -/
  | report
  | force
deriving DecidableEq, Repr

namespace Switch

/-- The word of an option. -/
def word : Switch → String
  | help => "help"
  | report => "report"
  | force => "force"

/-- The letter of an option. -/
def letter : Switch → Char
  | help => 'h'
  | report => 'r'
  | force => 'f'

end Switch

/-- What arguments have given so far. -/
structure Given where
  directory : Option String := none
  report : Option String := none
  force : Bool := false

namespace Given

/-- Takes the directory. -/
def addDirectory (given : Given) (path : String) : Except Usage Given :=
  if path.isEmpty || given.directory.isSome then .error .mistaken
  else .ok { given with directory := some path }

/-- Takes the path of a report. -/
def addReport (given : Given) (path : String) : Except Usage Given :=
  if path.isEmpty || given.report.isSome then .error .mistaken
  else .ok { given with report := some path }

/-- Takes an option that stands alone. -/
def addAlone (given : Given) : Switch → Except Usage Given
  | .help => .error .asked
  | .report => .error .mistaken
  | .force => if given.force then .error .mistaken else .ok { given with force := true }

end Given

/-- Whether an argument is an option or several. -/
def isSwitch (argument : String) : Bool :=
  match argument.toList with
  | '-' :: _ :: _ => true
  | _ => false

/-- What an argument with options leaves to do. -/
inductive Pending where
  | done (given : Given)
  /-- The next argument is the path of a report. -/
  | report (given : Given)

/-- Reads an option given as a word, perhaps with its path behind an equals sign. -/
def readWord (known : List Switch) (given : Given) (text : List Char) : Except Usage Pending :=
  let word := text.takeWhile (· != '=')
  match known.find? fun switch => switch.word.toList == word with
  | none => .error .mistaken
  | some .report =>
      match text.drop word.length with
      | '=' :: path => return .done (← given.addReport (String.ofList path))
      | _ => return .report given
  | some switch =>
      if word == text then return .done (← given.addAlone switch) else .error .mistaken

/-- Reads options given as letters in one argument. -/
def readLetters (known : List Switch) (given : Given) : List Char → Except Usage Pending
  | [] => .ok (.done given)
  | c :: rest =>
      match known.find? fun switch => switch.letter == c with
      | none => .error .mistaken
      | some .report =>
          match rest with
          | [] => return .report given
          | '=' :: path => return .done (← given.addReport (String.ofList path))
          | path => return .done (← given.addReport (String.ofList path))
      | some switch => do readLetters known (← given.addAlone switch) rest

/-- Reads an argument with options. -/
def readSwitch (known : List Switch) (given : Given) (argument : String)
    : Except Usage Pending :=
  match argument.toList with
  | '-' :: '-' :: text => readWord known given text
  | text => readLetters known given (text.drop 1)

/-- Reads the arguments of a command. Behind two hyphens nothing is an option. -/
def readArguments (known : List Switch) (given : Given) : List String → Except Usage Given
  | [] => .ok given
  | argument :: rest =>
      if argument == "--" then rest.foldlM Given.addDirectory given
      else if isSwitch argument then
        match readSwitch known given argument with
        | .error usage => .error usage
        | .ok (.done given) => readArguments known given rest
        | .ok (.report given) =>
            match rest with
            | [] => .error .mistaken
            | path :: rest =>
                if isSwitch path then .error .mistaken
                else
                  match given.addReport path with
                  | .error usage => .error usage
                  | .ok given => readArguments known given rest
      else
        match given.addDirectory argument with
        | .error usage => .error usage
        | .ok given => readArguments known given rest

/-- Reads the arguments of a command that needs a directory. -/
def readDirectory (known : List Switch) (arguments : List String)
    : Except Usage (String × Given) := do
  let given ← readArguments known {} arguments
  match given.directory with
  | some directory => return (directory, given)
  | none => throw .mistaken

/-- Whether arguments ask for help before any command. -/
def asksForHelp : List String → Bool
  | ["help"] => true
  | ["help", word] => ["run", "order", "init", "help"].contains word
  | argument :: _ =>
      ["--help", "--version"].contains argument
        || (argument.startsWith "-h" || argument.startsWith "-V")
  | [] => false

/-- The command that arguments give. -/
def ofArguments : List String → Except Usage Command
  | "run" :: rest => do
      let (directory, given) ← readDirectory [.help, .report] rest
      return .run directory given.report
  | "order" :: rest => do
      let (directory, _) ← readDirectory [.help] rest
      return .order directory
  | "init" :: rest => do
      let (directory, given) ← readDirectory [.help, .force] rest
      return .setUp directory given.force
  | arguments => .error (if asksForHelp arguments then .asked else .mistaken)

/-- How the program is used. -/
def usageText : String :=
  String.join
    ["Usage: run DIRECTORY [--report PATH]\n", "       order DIRECTORY\n",
      "       init DIRECTORY [--force]\n"]

/-- The outcome of arguments that are no command. -/
def Usage.outcome : Usage → Outcome
  | asked => { output := usageText }
  | mistaken => { code := Outcome.misuse, complaint := usageText }

/-- Does what arguments ask for. -/
def performArguments {m : Type → Type} [Monad m] [Files m] (arguments : List String)
    : m Outcome :=
  match ofArguments arguments with
  | .ok command => command.perform
  | .error usage => return usage.outcome

end Rehearsal.Command
