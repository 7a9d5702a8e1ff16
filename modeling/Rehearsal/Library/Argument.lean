import Rehearsal.Directive
import Rehearsal.Polling
import Rehearsal.Polling.Duration

/-!
How handlers read their arguments: texts, elements, numbers of seconds, lists and regular
expressions.
-/

namespace Rehearsal.Library

open Browser

/-- The text of an argument that must be present. -/
def argument (args : Args) (name : String) : Drive String :=
  match args.get? name with
  | some value => return value
  | none =>
      Drive.fail (.other "MissingArgument"
        ("directive pattern has no '" ++ name ++ "' capture"))

/-- The written element argument, or nothing, for use in messages. -/
def elementText (args : Args) : String :=
  (args.get? "elem").getD ""

/-- The key of the element that the element argument locates. -/
def element (args : Args) : Drive String := do
  Drive.find (Locator.ofText (← argument args "elem"))

/-- The length of time that the seconds argument gives. -/
def seconds (args : Args) : Drive Duration := do
  let raw ← argument args "seconds"
  match Duration.ofText? raw with
  | some duration => return duration
  | none => Drive.fail (.other "InvalidArgument" ("'" ++ raw ++ "' is not a number of seconds"))

/-- Whether a character is a quotation mark. -/
def isQuote (c : Char) : Bool :=
  c == '"' || c == '\''

/-- The items of a written list: they stand between commas, and neither white space around them
nor quotation marks at their ends count. -/
def listItems (text : String) : List String :=
  (Text.splitAt ',' text.toList).map fun item =>
    String.ofList (Text.strip isQuote (Text.strip Text.isBlank item))

/-- The items of the list argument. -/
def items (args : Args) : Drive (List String) := do
  return listItems (← argument args "list")

/-- The regular expression that an argument writes. -/
def expression (args : Args) : Drive Pattern := do
  let raw ← argument args "regexp"
  match Pattern.ofText false raw with
  | .ok pattern => return pattern
  | .error error =>
      Drive.fail (.other "InvalidPattern" ("'" ++ raw ++ "': " ++ error.message))

/-- The failure to find an option of the select element. -/
def missingChoice (args : Args) (value : String) : Failure :=
  .elementNotFound ("option '" ++ value ++ "' in " ++ elementText args)

end Rehearsal.Library
