import Rehearsal.Proofs.Browser.Journal
import Rehearsal.Proofs.Dict

/-! What the calls of a session do, from any session: how each operation ends and the session after
it, and the pages that a call can leave behind. A call that fails leaves the page as it was.
-/

namespace Rehearsal.Browser

-----------------------------------------------------------------------------------------
-- What a session has, and what becomes of it
-----------------------------------------------------------------------------------------

namespace Session

/-- The element under a key, or the failure for which a session has none. -/
def elementAt (session : Session) (key : String) : Except Failure Element :=
  if session.closed then .error (.noSuchWindow "session closed")
  else
    match session.page.elements.get? key with
    | some element => .ok element
    | none => .error (.staleElement ("'" ++ key ++ "' is no longer attached to the page"))

theorem elementAt_eq_ok_iff {session : Session} {key : String} {element : Element}
    : session.elementAt key = .ok element
      ↔ session.closed = false ∧ session.page.elements.get? key = some element := by
  unfold elementAt
  cases session.closed <;> cases session.page.elements.get? key <;> simp

/-- The text of the open alert, or the failure for which a session shows none. -/
def alertShown (session : Session) : Except Failure String :=
  if session.closed then .error (.noSuchWindow "session closed")
  else
    match session.page.alert with
    | some text => .ok text
    | none => .error .noAlertPresent

/-- The session with an entry more in its journal. -/
def noting (session : Session) (entry : Entry) : Session :=
  { session with journal := session.journal ++ [entry] }

@[simp]
theorem elementAt_noting (session : Session) (entry : Entry) (key : String)
    : (session.noting entry).elementAt key = session.elementAt key :=
  rfl

/-- The session with another page. -/
def withPage (session : Session) (page : Page) : Session :=
  { session with page }

/-- The session after it has gone to an address. -/
def showing (session : Session) (url : String) : Session :=
  { session.noting (.navigate url) with page := session.site.page url, url }

end Session

-----------------------------------------------------------------------------------------
-- The operations, one by one
-----------------------------------------------------------------------------------------

namespace Drive

theorem outcome_fail {α : Type} (failure : Failure) (session : Session)
    : outcome (fail failure : Drive α) session = (.error failure, session) :=
  rfl

theorem outcome_record (entry : Entry) (session : Session)
    : outcome (record entry) session = (.ok (), session.noting entry) :=
  rfl

theorem outcome_changePage (change : Page → Page) (session : Session)
    : outcome (changePage change) session = (.ok (), session.withPage (change session.page)) :=
  rfl

theorem outcome_element (key : String) (session : Session)
    : outcome (element key) session = (session.elementAt key, session) := by
  unfold element Session.elementAt
  rw [outcome_bind, outcome_opened]
  cases session.closed with
  | true => rfl
  | false =>
      simp only [Bool.false_eq_true, ↓reduceIte]
      cases session.page.elements.get? key <;> rfl

theorem outcome_choices (key : String) (session : Session)
    : outcome (choices key) session = ((session.elementAt key).map Element.choices, session) := by
  unfold choices
  rw [outcome_bind, outcome_element]
  cases session.elementAt key <;> rfl

theorem outcome_find_eq_ok_iff {locator : Locator} {key : String} {session after : Session}
    : outcome (find locator) session = (.ok key, after)
      ↔ locator.key = key ∧ (∃ element, session.elementAt key = .ok element) ∧ after = session := by
  unfold find
  rw [outcome_bind, outcome_opened]
  simp only [Session.elementAt_eq_ok_iff, Dict.contains_eq_isSome]
  cases session.closed with
  | true => simp
  | false =>
      simp only [Bool.false_eq_true, ↓reduceIte, true_and]
      split
      next present =>
        rw [outcome_pure, Prod.mk.injEq, Except.ok.injEq]
        refine ⟨fun ⟨here, same⟩ => ⟨here, ?_, same.symm⟩, fun ⟨here, _, same⟩ => ⟨here, same.symm⟩⟩
        exact here ▸ Option.isSome_iff_exists.mp present
      next absent =>
        rw [outcome_fail]
        constructor
        · intro ended
          cases ended
        · intro ⟨here, found, _⟩
          exact absurd (Option.isSome_iff_exists.mpr (here ▸ found)) absent

theorem outcome_navigate (url : String) (session : Session)
    : outcome (navigate url) session
      = if session.closed then (.error (.noSuchWindow "session closed"), session)
        else (.ok (), session.showing url) := by
  unfold navigate
  rw [outcome_bind, outcome_opened]
  cases session.closed <;> rfl

theorem outcome_click (key : String) (session : Session)
    : outcome (click key) session
      = match session.elementAt key with
        | .error failure => (.error failure, session.noting (.click key))
        | .ok clicked =>
            match clicked.target? with
            | some url => (.ok (), (session.noting (.click key)).showing url)
            | none =>
                (.ok (),
                  (session.noting (.click key)).withPage (session.page.click key clicked)) := by
  unfold click
  rw [outcome_bind_of_ok (outcome_record _ _), outcome_bind, outcome_element,
    Session.elementAt_noting]
  cases reached : session.elementAt key with
  | error failure => rfl
  | ok clicked =>
      have isOpen : (session.noting (.click key)).closed = false :=
        (Session.elementAt_eq_ok_iff.mp reached).1
      cases leads : clicked.target? with
      | some url => simp [leads, outcome_navigate, isOpen]
      | none => simp [leads, outcome_changePage, Session.noting]

theorem outcome_typeText (key text : String) (session : Session)
    : outcome (typeText key text) session
      = match session.elementAt key with
        | .error failure => (.error failure, session.noting (.typed key text))
        | .ok _ =>
            (.ok (),
              (session.noting (.typed key text)).withPage
                (session.page.modify key fun element =>
                  { element with value := element.value ++ text })) := by
  unfold typeText
  rw [outcome_bind_of_ok (outcome_record _ _), outcome_bind, outcome_element,
    Session.elementAt_noting]
  cases session.elementAt key <;> rfl

/-- Only the selection of an option is written down, and that before the option is looked for. -/
theorem outcome_setChoice (key value : String) (selected : Bool) (session : Session)
    : outcome (setChoice key value selected) session
      = let begun := if selected then session.noting (.select key value) else session
        match begun.elementAt key with
        | .error failure => (.error failure, begun)
        | .ok target =>
            match target.choiceAt? value with
            | none =>
                (.error (.elementNotFound (key ++ " > option[value='" ++ value ++ "']")), begun)
            | some place =>
                (.ok (),
                  begun.withPage
                    (begun.page.modify key fun element => element.setChoice place selected)) := by
  unfold setChoice
  extract_lets choose begun
  have noted
      : outcome (if selected then record (.select key value) >>= choose else choose ⟨⟩) session
        = outcome (choose ⟨⟩) begun := by
    cases selected <;> rfl
  refine noted.trans ?_
  dsimp only [choose]
  rw [outcome_bind, outcome_element]
  cases begun.elementAt key with
  | error failure => rfl
  | ok target =>
      simp only
      cases target.choiceAt? value <;> rfl

theorem outcome_alertText (session : Session)
    : outcome alertText session = (session.alertShown, session) := by
  unfold alertText Session.alertShown
  rw [outcome_bind, outcome_opened]
  cases session.closed with
  | true => rfl
  | false =>
      simp only [Bool.false_eq_true, ↓reduceIte]
      cases session.page.alert <;> rfl

theorem outcome_closeAlert (session : Session)
    : outcome closeAlert session
      = match session.alertShown with
        | .error failure => (.error failure, session)
        | .ok _ => (.ok (), session.withPage { session.page with alert := none }) := by
  unfold closeAlert
  rw [outcome_bind, outcome_alertText]
  cases session.alertShown <;> rfl

end Drive

-----------------------------------------------------------------------------------------
-- The pages that a call can leave behind
-----------------------------------------------------------------------------------------

/-- The page after one call, on a page of a site: as it was, another page of the site, or changed at
the element or the alert that the call is about.
-/
inductive Page.Turn (site : Site) (page : Page) : Page → Prop
  | still : page.Turn site page
  | showing (url : String) : page.Turn site (site.page url)
  | clicked {key element} (found : page.elements.get? key = some element)
    : page.Turn site (page.click key element)
  | typed (key text : String)
    : page.Turn site
        (page.modify key fun element => { element with value := element.value ++ text })
  | chosen (key : String) (place : Nat) (selected : Bool)
    : page.Turn site (page.modify key fun element => element.setChoice place selected)
  | alertClosed : page.Turn site { page with alert := none }

/-- A session after one call: of the same site, with the page turned. -/
structure Session.Turns (before after : Session) : Prop where
  site : after.site = before.site
  page : before.page.Turn before.site after.page

namespace Drive

/-- An operation that turns the page of every session. -/
abbrev Turns {α : Type} (drive : Drive α) : Prop :=
  Moves Session.Turns drive

theorem Reads.turns {α : Type} {drive : Drive α} (reads : Reads drive) : Turns drive := by
  intro session
  rw [reads session]
  exact ⟨rfl, .still⟩

theorem turns_navigate (url : String) : Turns (navigate url) := by
  intro session
  rw [outcome_navigate]
  split
  · exact ⟨rfl, .still⟩
  · exact ⟨rfl, .showing url⟩

theorem turns_click (key : String) : Turns (click key) := by
  intro session
  rw [outcome_click]
  cases reached : session.elementAt key with
  | error failure => exact ⟨rfl, .still⟩
  | ok clicked =>
      simp only
      cases clicked.target? with
      | some url => exact ⟨rfl, .showing url⟩
      | none => exact ⟨rfl, .clicked (Session.elementAt_eq_ok_iff.mp reached).2⟩

theorem turns_typeText (key text : String) : Turns (typeText key text) := by
  intro session
  rw [outcome_typeText]
  cases session.elementAt key with
  | error failure => exact ⟨rfl, .still⟩
  | ok element => exact ⟨rfl, .typed key text⟩

theorem turns_setChoice (key value : String) (selected : Bool)
    : Turns (setChoice key value selected) := by
  intro session
  rw [outcome_setChoice]
  extract_lets begun
  have site : begun.site = session.site := by cases selected <;> rfl
  have page : begun.page = session.page := by cases selected <;> rfl
  cases begun.elementAt key with
  | error failure => exact ⟨site, page ▸ .still⟩
  | ok target =>
      simp only
      cases target.choiceAt? value with
      | some place => exact ⟨site, page ▸ .chosen key place selected⟩
      | none => exact ⟨site, page ▸ .still⟩

theorem turns_closeAlert : Turns closeAlert := by
  intro session
  rw [outcome_closeAlert]
  cases session.alertShown with
  | error failure => exact ⟨rfl, .still⟩
  | ok text => exact ⟨rfl, .alertClosed⟩

theorem turns_close : Turns close := by
  intro session
  unfold close
  rw [outcome_bind_of_ok (outcome_get session)]
  cases session.closed <;> exact ⟨rfl, .still⟩

end Drive

namespace Call

open Drive

/-- Whether a call only asks. -/
def asks : Call → Bool
  | navigate _ | click _ | typeText _ _ | setChoice _ _ _ | acceptAlert | dismissAlert | close =>
      false
  | _ => true

theorem reads_perform {call : Call} (asking : call.asks = true) : Reads call.perform := by
  have answering {α : Type} {drive : Drive α} (reads : Reads drive) (answer : α → Answer)
      : Reads (do return answer (← drive)) :=
    reads.bind fun value => .pure (answer value)
  cases call with
  | currentUrl => exact answering (reads_opened.bind fun _ => .pure _) _
  | title => exact answering (reads_opened.bind fun _ => .pure _) _
  | find locator => exact answering (reads_find locator) _
  | text key => exact answering ((reads_element key).bind fun _ => .pure _) _
  | attributeOf key name => exact answering ((reads_element key).bind fun _ => .pure _) _
  | isSelected key => exact answering ((reads_element key).bind fun _ => .pure _) _
  | isDisplayed key => exact answering ((reads_element key).bind fun _ => .pure _) _
  | choices key => exact answering ((reads_element key).bind fun _ => .pure _) _
  | showsContent content => exact answering (reads_opened.bind fun _ => .pure _) _
  | alertText => exact answering reads_alertText _
  | _ => cases asking

/-- A call turns the page in one of the six ways, by cases on the call. -/
theorem turns_perform (call : Call) : Turns call.perform := by
  have doing {drive : Drive Unit} (turns : Turns drive) : Turns (do drive; return Answer.done) := by
    intro session
    have turned := turns session
    rw [outcome_bind]
    cases ended : outcome drive session with
    | mk ending after =>
        rw [ended] at turned
        cases ending <;> exact turned
  cases call with
  | navigate url => exact doing (turns_navigate url)
  | click key => exact doing (turns_click key)
  | typeText key text => exact doing (turns_typeText key text)
  | setChoice key value selected => exact doing (turns_setChoice key value selected)
  | acceptAlert | dismissAlert => exact doing turns_closeAlert
  | close => exact doing turns_close
  | _ => exact (reads_perform rfl).turns

/-- Calls stay on the site, by induction on the calls. -/
theorem site_performAll (calls : List Call) (session : Session)
    : (performAll calls session).2.site = session.site := by
  induction calls generalizing session with
  | nil => rfl
  | cons call rest ih => exact (ih _).trans (turns_perform call session).site

end Call

end Rehearsal.Browser
