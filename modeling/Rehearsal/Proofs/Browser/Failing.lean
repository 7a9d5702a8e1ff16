import Rehearsal.Proofs.Browser.Journal

/-! What the operations of a session fail with: that there is no window, no element or no alert. -/

namespace Rehearsal

open Browser

/-- A failure to reach a window, an element or an alert. -/
inductive Failure.IsOfBrowser : Failure → Prop where
  | noSuchWindow (text : String) : IsOfBrowser (.noSuchWindow text)
  | elementNotFound (selector : String) : IsOfBrowser (.elementNotFound selector)
  | staleElement (text : String) : IsOfBrowser (.staleElement text)
  | noAlertPresent : IsOfBrowser .noAlertPresent

namespace Browser.Drive

variable {α β : Type} {allowed : Failure → Prop}

/-- An operation that does not fail in other than the allowed ways. -/
def FailsAs (allowed : Failure → Prop) (drive : Drive α) : Prop :=
  ∀ session failure, (outcome drive session).1 = .error failure → allowed failure

namespace FailsAs

theorem pure (value : α) : FailsAs allowed (Pure.pure value) := by
  intro session failure ended
  cases ended

theorem fail {failure : Failure} (here : allowed failure)
    : FailsAs allowed (Drive.fail failure : Drive α) := by
  intro session other ended
  cases ended
  exact here

theorem mono {drive : Drive α} {others : Failure → Prop} (fails : FailsAs allowed drive)
    (wider : ∀ {failure}, allowed failure → others failure)
    : FailsAs others drive :=
  fun session failure ended => wider (fails session failure ended)

theorem bind {drive : Drive α} {next : α → Drive β} (first : FailsAs allowed drive)
    (rest : ∀ value, FailsAs allowed (next value))
    : FailsAs allowed (drive >>= next) := by
  intro session failure ended
  rw [outcome_bind] at ended
  split at ended
  next value after _ => exact rest value after failure ended
  next error after here =>
    cases ended
    exact first session _ (congrArg Prod.fst here)

/-- A failure of the first part is seen by the other one, which may pass it on. -/
theorem tryCatch {drive : Drive α} {rescue : Failure → Drive α} (first : FailsAs allowed drive)
    (rescuing : ∀ failure, allowed failure → FailsAs allowed (rescue failure))
    : FailsAs allowed (tryCatch drive rescue) := by
  intro session failure ended
  rw [outcome_tryCatch] at ended
  split at ended
  next => cases ended
  next error after here =>
    exact rescuing error (first session _ (congrArg Prod.fst here)) after failure ended

end FailsAs

-----------------------------------------------------------------------------------------
-- The operations of a session
-----------------------------------------------------------------------------------------

theorem failsAs_modify (change : Session → Session)
    : FailsAs allowed (modify change : Drive Unit) := by
  intro session failure ended
  cases ended

theorem failsAs_opened : FailsAs Failure.IsOfBrowser opened := by
  intro session failure ended
  rw [outcome_opened] at ended
  split at ended
  · cases ended
    exact .noSuchWindow _
  · cases ended

theorem failsAs_element (key : String) : FailsAs Failure.IsOfBrowser (element key) :=
  failsAs_opened.bind fun session => by
    cases session.page.elements.get? key with
    | none => exact .fail (.staleElement _)
    | some element => exact .pure element

theorem failsAs_find (locator : Locator) : FailsAs Failure.IsOfBrowser (find locator) :=
  failsAs_opened.bind fun session => by
    split
    · exact .pure _
    · exact .fail (.elementNotFound _)

theorem failsAs_alertText : FailsAs Failure.IsOfBrowser alertText :=
  failsAs_opened.bind fun session => by
    cases session.page.alert with
    | none => exact .fail .noAlertPresent
    | some text => exact .pure text

theorem failsAs_closeAlert : FailsAs Failure.IsOfBrowser closeAlert :=
  failsAs_alertText.bind fun _ => failsAs_modify _

/-- What is read off the session or an element of its page fails no more than that does. -/
theorem FailsAs.map {drive : Drive α} (fails : FailsAs allowed drive) (view : α → β)
    : FailsAs allowed (do return view (← drive)) :=
  fails.bind fun _ => .pure _

theorem failsAs_navigate (url : String) : FailsAs Failure.IsOfBrowser (navigate url) :=
  failsAs_opened.bind fun _ => (failsAs_modify _).bind fun _ => failsAs_modify _

theorem failsAs_click (key : String) : FailsAs Failure.IsOfBrowser (click key) :=
  (failsAs_modify _).bind fun _ => (failsAs_element key).bind fun clicked => by
    cases clicked.target? with
    | none => exact failsAs_modify _
    | some url => exact failsAs_navigate url

theorem failsAs_typeText (key text : String) : FailsAs Failure.IsOfBrowser (typeText key text) :=
  (failsAs_modify _).bind fun _ => (failsAs_element key).bind fun _ => failsAs_modify _

theorem failsAs_setChoice (key value : String) (selected : Bool)
    : FailsAs Failure.IsOfBrowser (setChoice key value selected) := by
  cases selected with
  | false =>
      refine (failsAs_element key).bind fun target => ?_
      cases target.choiceAt? value with
      | none => exact .fail (.elementNotFound _)
      | some place => exact failsAs_modify _
  | true =>
      refine (failsAs_modify _).bind fun _ => (failsAs_element key).bind fun target => ?_
      cases target.choiceAt? value with
      | none => exact .fail (.elementNotFound _)
      | some place => exact failsAs_modify _

end Browser.Drive

end Rehearsal
