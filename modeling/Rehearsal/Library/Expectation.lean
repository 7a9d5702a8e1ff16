import Rehearsal.Library.Argument

/-!
The handlers that look at a page and leave it as it is. One that is not met fails with an
assertion that says what was found.
-/

namespace Rehearsal.Library

open Browser

/-- Passes if a condition holds and fails with an assertion otherwise. -/
def expect (condition : Bool) (complaint : String) : Drive (Option Bool) :=
  if condition then return none else Drive.fail (.assertion complaint)

/-- A text is displayed. -/
def expectContent : Handler := fun args => do
  let content ← argument args "content"
  let shown ← Drive.showsContent content
  expect shown ("Could not find content '" ++ content ++ "'.")

/-- An element exists. -/
def expectExists : Handler := fun args => do
  let _ ← element args
  return none

/-- An element does not exist. -/
def expectAbsent : Handler := fun args =>
  tryCatch
    (do
      let _ ← element args
      expect false ("'" ++ elementText args ++ "' still exists"))
    fun failure =>
      if failure.kind = .elementNotFound then return none else Drive.fail failure

/-- The page has a title. -/
def expectTitle : Handler := fun args => do
  let expected ← argument args "title"
  let title ← Drive.title
  expect (title == expected)
    ("Page title was '" ++ title ++ "', expected '" ++ expected ++ "'.")

/-- The page has an address. -/
def expectUrl : Handler := fun args => do
  let expected ← argument args "url"
  let url ← Drive.currentUrl
  expect (url == expected) ("Url was '" ++ url ++ "', expected '" ++ expected ++ "'.")

/-- The address of the page contains a text. -/
def expectUrlContains : Handler := fun args => do
  let expected ← argument args "url"
  let url ← Drive.currentUrl
  expect (Text.occursIn expected.toList url.toList)
    ("Url '" ++ url ++ "' does not contain '" ++ expected ++ "'.")

/-- The text of the element and the regular expression to look for in it. -/
def textAndExpression (args : Args) : Drive (String × Pattern) := do
  let pattern ← expression args
  let target ← element args
  return (← Drive.text target, pattern)

/-- A regular expression occurs in the text of an element. -/
def expectMatches : Handler := fun args => do
  let (text, pattern) ← textAndExpression args
  expect (pattern.occursIn text)
    ("'" ++ text ++ "' does not match '" ++ pattern.source ++ "'.")

/-- A regular expression does not occur in the text of an element. -/
def expectNotMatches : Handler := fun args => do
  let (text, pattern) ← textAndExpression args
  expect (!pattern.occursIn text) ("'" ++ text ++ "' matches '" ++ pattern.source ++ "'.")

/-- The current value of the element. -/
def valueOf (args : Args) : Drive String := do
  let target ← element args
  return (← Drive.attribute? target "value").getD ""

/-- A regular expression occurs in the value of an element. -/
def expectValueMatches : Handler := fun args => do
  let pattern ← expression args
  let value ← valueOf args
  expect (pattern.occursIn value)
    ("Value was '" ++ value ++ "', expected a match for '" ++ pattern.source ++ "'.")

/-- An element has a value. -/
def expectValue : Handler := fun args => do
  let expected ← argument args "value"
  let value ← valueOf args
  expect (value == expected) ("Value was '" ++ value ++ "', expected '" ++ expected ++ "'.")

/-- The name of a state of selection. -/
def stateName (selected : Bool) : String :=
  if selected then "selected" else "not selected"

/-- An element has a state of selection. -/
def expectSelection (selected : Bool) : Handler := fun args => do
  let target ← element args
  let actual ← Drive.isSelected target
  expect (actual == selected)
    ("'" ++ elementText args ++ "' is expected to be " ++ stateName selected ++ ".")

/-- An element is selected. -/
def expectSelected : Handler :=
  expectSelection true

/-- An element is not selected. -/
def expectNotSelected : Handler :=
  expectSelection false

/-- The radio button with a value has a state of selection. -/
def expectRadio (selected : Bool) : Handler := fun args => do
  let value ← argument args "value"
  let radio ← Drive.find (Locator.radio value)
  let actual ← Drive.isSelected radio
  expect (actual == selected)
    ("Radio '" ++ value ++ "' is expected to be " ++ stateName selected ++ ".")

/-- The radio button with a value is selected. -/
def expectRadioSelected : Handler :=
  expectRadio true

/-- The radio button with a value is not selected. -/
def expectRadioNotSelected : Handler :=
  expectRadio false

/-- A select element has an option with a value. -/
def expectChoice : Handler := fun args => do
  let value ← argument args "value"
  let key ← element args
  let choices ← Drive.choices key
  if choices.any fun choice => choice.value == value then return none
  else Drive.fail (missingChoice args value)

/-- The first option with a value is selected. -/
def expectChoiceSelected : Handler := fun args => do
  let value ← argument args "value"
  let key ← element args
  let choices ← Drive.choices key
  match choices.find? fun choice => choice.value == value with
  | none => Drive.fail (missingChoice args value)
  | some choice => expect choice.selected ("Option '" ++ value ++ "' is not selected.")

/-- The complaint about the first option whose selection is not what a list of items says. -/
def misselection? (wanted : List String) : List Choice → Option String
  | [] => none
  | choice :: rest =>
      let listed := wanted.any fun item => choice.value == item || choice.text == item
      if listed && !choice.selected then
        some ("Option '" ++ choice.value ++ "' was not selected.")
      else if !listed && choice.selected then
        some ("Option '" ++ choice.value ++ "' was selected.")
      else misselection? wanted rest

/-- Exactly the options that are listed by value or text are selected. -/
def expectChoicesSelected : Handler := fun args => do
  let wanted ← items args
  let key ← element args
  match misselection? wanted (← Drive.choices key) with
  | none => return none
  | some complaint => Drive.fail (.assertion complaint)

/-- A link leads to an address. -/
def expectLink : Handler := fun args => do
  let _ ← Drive.find (Locator.linkTo (← argument args "url"))
  return none

/-- The text of the link to an address contains a text. -/
def expectLinkText : Handler := fun args => do
  let url ← argument args "url"
  let expected ← argument args "text"
  let link ← Drive.find (Locator.linkTo url)
  let text ← Drive.text link
  expect (Text.occursIn expected.toList text.toList)
    ("Link to '" ++ url ++ "' reads '" ++ text ++ "', expected it to contain '" ++ expected ++ "'.")

/-- An alert is open and has a text. -/
def expectAlertText : Handler := fun args => do
  let expected ← argument args "text"
  let text ← Drive.alertText
  expect (text == expected) ("Alert text was '" ++ text ++ "', expected '" ++ expected ++ "'.")

/-- No alert is open. -/
def expectNoAlert : Handler := fun _ =>
  tryCatch
    (do
      let text ← Drive.alertText
      expect false ("Alert '" ++ text ++ "' is displayed."))
    fun failure => if failure = .noAlertPresent then return none else Drive.fail failure

end Rehearsal.Library
