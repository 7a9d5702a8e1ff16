import Rehearsal.Library.Argument

/-!
The handlers that act on a page: going elsewhere, typing, clicking, selecting and answering
alerts.
-/

namespace Rehearsal.Library

open Browser

/-- Goes to an address. -/
def load : Handler := fun args => do
  Drive.navigate (← argument args "url")
  return none

/-- Types a text into an element. -/
def typeInto : Handler := fun args => do
  let target ← element args
  Drive.typeText target (← argument args "keys")
  return none

/-- Clicks an element. -/
def click : Handler := fun args => do
  Drive.click (← element args)
  return none

/-- Goes to the address of a link. -/
def followLink : Handler := fun args => do
  let link ← element args
  match ← Drive.attribute? link "href" with
  | some url =>
      Drive.navigate url
      return none
  | none => Drive.fail (.assertion ("'" ++ elementText args ++ "' has no href"))

/-- Clicks an element unless its selection is the wanted one already. -/
def setSelected (selected : Bool) : Handler := fun args => do
  let target ← element args
  if (← Drive.isSelected target) != selected then Drive.click target
  return none

/-- Selects an element. -/
def check : Handler :=
  setSelected true

/-- Clears the selection of an element. -/
def uncheck : Handler :=
  setSelected false

/-- The option that an item of a list denotes: the first with that value, or else the first with
that text. -/
def denoted? (choices : List Choice) (item : String) : Option Choice :=
  (choices.find? fun choice => choice.value == item).or
    (choices.find? fun choice => choice.text == item)

/-- Clears some options one after another. -/
def clearChoices (key : String) : List Choice → Drive Unit
  | [] => return ()
  | choice :: rest => do
      Drive.setChoice key choice.value false
      clearChoices key rest

/-- Selects the options that items denote, one after another. -/
def selectItems (args : Args) (key : String) (choices : List Choice) : List String → Drive Unit
  | [] => return ()
  | item :: rest =>
      match denoted? choices item with
      | none => Drive.fail (missingChoice args item)
      | some choice => do
          Drive.setChoice key choice.value true
          selectItems args key choices rest

/-- Selects the listed options in place of the selected ones. -/
def selectMany : Handler := fun args => do
  let wanted ← items args
  let key ← element args
  let choices ← Drive.choices key
  clearChoices key (choices.filter Choice.selected)
  selectItems args key choices wanted
  return none

/-- Selects the option with a value. -/
def selectOne : Handler := fun args => do
  let key ← element args
  Drive.setChoice key (← argument args "value") true
  return none

/-- Clicks the radio button with a value. -/
def chooseRadio : Handler := fun args => do
  let radio ← Drive.find (Locator.radio (← argument args "value"))
  Drive.click radio
  return none

/-- Closes the alert, if one is open. -/
def answerAlert : Handler := fun _ =>
  tryCatch (do Drive.closeAlert; return none) fun failure =>
    if failure = .noAlertPresent then return none else Drive.fail failure

/-- Passes after the given time. A session does not change by itself, so what passes meanwhile
has no effect. -/
def wait : Handler := fun args => do
  let _ ← seconds args
  return none

end Rehearsal.Library
