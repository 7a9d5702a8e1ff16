import Rehearsal.Browser.Session

/-!
The operations of a session as data, so that a history of a session is a list of calls.
-/

namespace Rehearsal.Browser

/-- A call of a session. -/
inductive Call where
  | navigate (url : String)
  | currentUrl
  | title
  | find (locator : Locator)
  | click (key : String)
  | typeText (key text : String)
  | text (key : String)
  | attributeOf (key name : String)
  | isSelected (key : String)
  | isDisplayed (key : String)
  | choices (key : String)
  | setChoice (key value : String) (selected : Bool)
  | showsContent (content : String)
  | alertText
  | acceptAlert
  | dismissAlert
  | close
deriving DecidableEq, Repr

/-- What a call answers. -/
inductive Answer where
  | done
  | text (value : String)
  | textOrNone (value : Option String)
  | truth (value : Bool)
  | choices (value : List Choice)
deriving DecidableEq, Repr

namespace Call

/-- Performs a call. -/
def perform : Call → Drive Answer
  | navigate url => do Drive.navigate url; return .done
  | currentUrl => return .text (← Drive.currentUrl)
  | title => return .text (← Drive.title)
  | find locator => return .text (← Drive.find locator)
  | click key => do Drive.click key; return .done
  | typeText key typed => do Drive.typeText key typed; return .done
  | text key => return .text (← Drive.text key)
  | attributeOf key name => return .textOrNone (← Drive.attribute? key name)
  | isSelected key => return .truth (← Drive.isSelected key)
  | isDisplayed key => return .truth (← Drive.isDisplayed key)
  | choices key => return .choices (← Drive.choices key)
  | setChoice key value selected => do Drive.setChoice key value selected; return .done
  | showsContent content => return .truth (← Drive.showsContent content)
  | alertText => return .text (← Drive.alertText)
  | acceptAlert | dismissAlert => do Drive.closeAlert; return .done
  | close => do Drive.close; return .done

/-- Performs calls one after another, whether or not earlier ones fail. -/
def performAll : List Call → Session → List (Except Failure Answer) × Session
  | [], session => ([], session)
  | call :: rest, session =>
      let (answer, next) := call.perform.on session
      let (answers, last) := performAll rest next
      (answer :: answers, last)

end Call

end Rehearsal.Browser
