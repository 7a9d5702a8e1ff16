import Rehearsal.Failure
import Rehearsal.Browser.Page

/-!
Sessions of a browser that shows a site. Every operation acts on the current page and may fail;
the journal lists what has been done to the browser, in order.
-/

namespace Rehearsal.Browser

/-- An entry of a session's journal. -/
inductive Entry where
  | launch
  | navigate (url : String)
  | click (key : String)
  | typed (key text : String)
  | select (key value : String)
  | close
deriving DecidableEq, Repr

/-- The written form of an entry. -/
def Entry.text : Entry → String
  | launch => "launch"
  | navigate url => "navigate " ++ url
  | click key => "click " ++ key
  | typed key text => "type " ++ key ++ " " ++ text
  | select key value => "select " ++ key ++ " " ++ value
  | close => "close"

/-- A session of a browser. -/
structure Session where
  site : Site
  url : String := ""
  page : Page := ∅
  closed : Bool := false
  /-- What has been done, oldest first. -/
  journal : List Entry := []
deriving DecidableEq

/-- A fresh session of a site, on an empty page. -/
def Session.launch (site : Site) : Session :=
  { site, journal := [.launch] }

/-- What has been done in a session since an earlier state of it. -/
def Session.since (earlier later : Session) : List Entry :=
  later.journal.drop earlier.journal.length

/-- An operation on a session. One that fails may have changed the session before. -/
abbrev Drive := ExceptT Failure (StateM Session)

namespace Drive

/-- The answer of an operation and the session after it. -/
def on {α : Type} (drive : Drive α) (session : Session) : Except Failure α × Session :=
  drive.run session

/-- Ends in a failure. -/
def fail {α : Type} (failure : Failure) : Drive α :=
  throw failure

/-- Appends to the journal. -/
def record (entry : Entry) : Drive Unit :=
  modify fun session => { session with journal := session.journal ++ [entry] }

/-- The session, which must be open. -/
def opened : Drive Session := do
  let session ← get
  if session.closed then fail (.noSuchWindow "session closed") else return session

/-- Changes the current page. -/
def changePage (change : Page → Page) : Drive Unit :=
  modify fun session => { session with page := change session.page }

/-- The element under a key, which must be on the current page. -/
def element (key : String) : Drive Element := do
  match (← opened).page.elements.get? key with
  | some element => return element
  | none => fail (.staleElement ("'" ++ key ++ "' is no longer attached to the page"))

/-- Goes to an address. -/
def navigate (url : String) : Drive Unit := do
  let session ← opened
  record (.navigate url)
  modify fun later => { later with page := Site.page session.site url, url }

/-- The current address. -/
def currentUrl : Drive String := do
  return (← opened).url

/-- The title of the current page. -/
def title : Drive String := do
  return (← opened).page.title

/-- The key of the located element, which must be on the current page. -/
def find (locator : Locator) : Drive String := do
  if (← opened).page.elements.contains locator.key then return locator.key
  else fail (.elementNotFound locator.display)

/-- Clicks an element: one that leads elsewhere is followed, any other is toggled or chosen. -/
def click (key : String) : Drive Unit := do
  record (.click key)
  let clicked ← element key
  match clicked.target? with
  | some url => navigate url
  | none => changePage fun page => page.click key clicked

/-- Types a text after the value of an element. -/
def typeText (key text : String) : Drive Unit := do
  record (.typed key text)
  let _ ← element key
  changePage fun page =>
    page.modify key fun element => { element with value := element.value ++ text }

/-- The text of an element. -/
def text (key : String) : Drive String := do
  return (← element key).text

/-- An attribute of an element. -/
def attribute? (key name : String) : Drive (Option String) := do
  return (← element key).attribute? name

/-- Whether an element is selected. -/
def isSelected (key : String) : Drive Bool := do
  return (← element key).selected

/-- Whether an element is displayed. -/
def isDisplayed (key : String) : Drive Bool := do
  return (← element key).displayed

/-- The options of an element, in document order. -/
def choices (key : String) : Drive (List Choice) := do
  return (← element key).choices

/-- Selects or clears the first option with a value. -/
def setChoice (key value : String) (selected : Bool) : Drive Unit := do
  if selected then record (.select key value)
  let target ← element key
  match target.choiceAt? value with
  | some place =>
      changePage fun page => page.modify key fun element => element.setChoice place selected
  | none => fail (.elementNotFound (key ++ " > option[value='" ++ value ++ "']"))

/-- Whether the current page shows a text. -/
def showsContent (content : String) : Drive Bool := do
  return (← opened).page.shows content

/-- The text of the open alert. -/
def alertText : Drive String := do
  match (← opened).page.alert with
  | some text => return text
  | none => fail .noAlertPresent

/-- Closes the open alert. -/
def closeAlert : Drive Unit := do
  let _ ← alertText
  changePage fun page => { page with alert := none }

/-- Closes the session; closing it again does nothing. -/
def close : Drive Unit := do
  if !(← get).closed then
    modify fun session => { session with closed := true }
    record .close

end Drive

end Rehearsal.Browser
