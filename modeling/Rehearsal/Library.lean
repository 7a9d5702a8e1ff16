import Rehearsal.Directive.Registry
import Rehearsal.Library.Action
import Rehearsal.Library.Expectation

/-!
The built-in forms of directives. The forms that poll come first, then the other expectations and
the actions, so that a directive with a time limit is never taken for one without.
-/

namespace Rehearsal.Library

open Browser

/-- How time passes while a directive polls. -/
structure Timing where
  clock : Clock
  interval : Duration

/-- The timing with a given interval, on a clock that moves on by the interval, and by a
microsecond at least, between two attempts. -/
def Timing.every (interval : Duration) : Timing where
  clock := .steady (max interval 1000)
  interval

/-- A handler whose answer `false` counts as a failure. -/
def insisting (handler : Handler) : Handler := fun args => do
  match ← handler args with
  | some false => Drive.fail .returnedFalse
  | answer => return answer

/-- The handler that repeats a check until it passes or the time limit in its arguments is up. -/
def polling (timing : Timing) (check : Handler) : Handler := fun args => do
  let timeout ← seconds args
  ExceptT.mk fun session =>
    let outcome :=
      Polling.poll timing.clock timeout timing.interval (insisting check args).on session
    (outcome.answer, outcome.state)

/-- A form before it is read. -/
structure Draft where
  source : String
  handler : Handler
  expected : Option FailureKind := none

/-- The time limit at the end of the forms that poll. -/
def limitSource : String :=
  " within (?P<seconds>\\d+(?:\\.\\d+)?) seconds?"

/-- The checks that can be repeated. -/
def pollingDrafts : List Draft :=
  [⟨"^Expect Page Title is \"(?P<title>.+)\"", expectTitle, none⟩,
    ⟨"^Expect url to be \"(?P<url>.+)\"", expectUrl, none⟩,
    ⟨"^Expect url to contain \"(?P<url>.+)\"", expectUrlContains, none⟩,
    ⟨"^Expect an alert with text \"(?P<text>.+)\"", expectAlertText, none⟩,
    ⟨"^expect to see content (?P<content>.+?)", expectContent, none⟩,
    ⟨"^expect exists (?P<elem>.+?)", expectExists, none⟩,
    ⟨"^Expect (?P<elem>.+?) to not exist", expectAbsent, none⟩,
    ⟨"^Expect (?P<elem>.+?) to have a value equal to \"(?P<value>.*)\"", expectValue, none⟩,
    ⟨"^Expect (?P<elem>.+?) to contain a value of \"(?P<regexp>.+)\"", expectValueMatches, none⟩,
    ⟨"^Expect (?P<elem>.+?) does not contain \"(?P<regexp>.+)\"", expectNotMatches, none⟩,
    ⟨"^Expect (?P<elem>.+?) contains \"(?P<regexp>.+)\"", expectMatches, none⟩,
    ⟨"^Expect (?P<elem>.+?) is not selected", expectNotSelected, none⟩,
    ⟨"^Expect (?P<elem>.+?) is selected", expectSelected, none⟩]

/-- The form that repeats a check for a limited time. -/
def Draft.within (timing : Timing) (draft : Draft) : Draft where
  source := draft.source ++ limitSource ++ "$"
  handler := polling timing draft.handler

/-- The expectations that look once. -/
def expectationDrafts : List Draft :=
  [⟨"^Expect Page Title is \"(?P<title>.+)\"", expectTitle, none⟩,
    ⟨"^Expect url to be \"(?P<url>.+)\"", expectUrl, none⟩,
    ⟨"^Expect url to contain \"(?P<url>.+)\"", expectUrlContains, none⟩,
    ⟨"^Expect an alert with text \"(?P<text>.+)\"", expectAlertText, none⟩,
    ⟨"^Expect no alert displayed", expectNoAlert, none⟩,
    ⟨"^Expect link with url \"(?P<url>.+?)\" that contains text \"(?P<text>.+)\"",
      expectLinkText, none⟩,
    ⟨"^Expect link with url \"(?P<url>.+)\"", expectLink, none⟩,
    ⟨"^Expect option \"(?P<value>.+?)\" not in selector (?P<elem>.+)", expectChoice,
      some .elementNotFound⟩,
    ⟨"^Expect option \"(?P<value>.+?)\" in selector (?P<elem>.+)", expectChoice, none⟩,
    ⟨"^Expect \"(?P<value>.+?)\" radio should not be selected", expectRadioNotSelected, none⟩,
    ⟨"^Expect \"(?P<value>.+?)\" radio should be selected", expectRadioSelected, none⟩,
    ⟨"^expect \"(?P<value>.*?)\" from (?P<elem>.+) should be selected", expectChoiceSelected,
      none⟩,
    ⟨"^expect \\[(?P<list>.+)\\] from (?P<elem>.+) should be selected", expectChoicesSelected,
      none⟩,
    ⟨"^expect to see content (?P<content>.+)", expectContent, none⟩,
    ⟨"^expect exists (?P<elem>.+)", expectExists, none⟩,
    ⟨"^Expect (?P<elem>.+) to not exist", expectExists, some .elementNotFound⟩,
    ⟨"^Expect (?P<elem>.+) to have a value equal to \"(?P<value>.*)\"", expectValue, none⟩,
    ⟨"^Expect (?P<elem>.+) to contain a value of \"(?P<regexp>.+)\"", expectValueMatches, none⟩,
    ⟨"^Expect (?P<elem>.+) does not contain \"(?P<regexp>.+)\"", expectNotMatches, none⟩,
    ⟨"^Expect (?P<elem>.+) contains \"(?P<regexp>.+)\"", expectMatches, none⟩,
    ⟨"^Expect (?P<elem>.+) is not selected", expectNotSelected, none⟩,
    ⟨"^Expect (?P<elem>.+) is selected", expectSelected, none⟩]

/-- The actions. -/
def actionDrafts : List Draft :=
  [⟨"^Accept the alert", answerAlert, none⟩,
    ⟨"^Dismiss the alert", answerAlert, none⟩,
    ⟨"^load (?P<url>.+)", load, none⟩,
    ⟨"^type (?P<keys>\".*\"|'.*'|\\[.+?\\]|\\S+) into (?P<elem>.+)", typeInto, none⟩,
    ⟨"^Follow link (?P<elem>.+)", followLink, none⟩,
    ⟨"^Select \\[(?P<list>.+)\\] from (?P<elem>.+)", selectMany, none⟩,
    ⟨"^Select \"(?P<value>.*?)\" from (?P<elem>.+)", selectOne, none⟩,
    ⟨"^Choose radio with value \"(?P<value>.+)\"", chooseRadio, none⟩,
    ⟨"^Uncheck (?P<elem>.+)", uncheck, none⟩,
    ⟨"^Check (?P<elem>.+)", check, none⟩,
    ⟨"^(?:click|press) (?P<elem>.+)", click, none⟩,
    ⟨"^Wait (?P<seconds>\\d+(?:\\.\\d+)?) seconds?", wait, none⟩]

/-- All built-in forms, in the order of their priority. -/
def drafts (timing : Timing) : List Draft :=
  pollingDrafts.map (Draft.within timing) ++ expectationDrafts ++ actionDrafts

/-- Adds all built-in forms after the forms of a registry. -/
def register (timing : Timing) (registry : DirectiveRegistry)
    : Except DirectiveForm.Refusal DirectiveRegistry :=
  (drafts timing).foldlM
    (fun registry draft => registry.register draft.source draft.expected draft.handler) registry

end Rehearsal.Library
