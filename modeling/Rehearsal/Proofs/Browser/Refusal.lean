import Rehearsal.Proofs.Browser.Navigation

/-! Calls that fail, and calls of a session that has been closed. A call that fails leaves the
session as it was, but for the entry of the journal that says which call was made. A closed session
refuses every call but the closing one. It was closed by the first closing call, and that call alone
has written so in the journal.
-/

namespace Rehearsal.Browser

-----------------------------------------------------------------------------------------
-- Calls that fail
-----------------------------------------------------------------------------------------

/-- The entry of the journal that says which call was made, for the calls that have one. -/
def Call.noted? : Call → Option Entry
  | navigate url => some (.navigate url)
  | click key => some (.click key)
  | typeText key typed => some (.typed key typed)
  | setChoice key value true => some (.select key value)
  | close => some .close
  | _ => none

/-- The later session is the earlier one, with a given entry more in its journal at most. -/
def Session.NotesAtMost (before : Session) (entry : Option Entry) (after : Session) : Prop :=
  after = before ∨ ∃ noted, entry = some noted ∧ after = before.noting noted

namespace Drive

variable {α β : Type} {entry : Option Entry}

/-- An operation that leaves a session as it was if it fails, but for a given entry. -/
def FailsIdly (entry : Option Entry) (drive : Drive α) : Prop :=
  ∀ ⦃session failure after⦄,
    outcome drive session = (.error failure, after) → session.NotesAtMost entry after

theorem Reads.failsIdly {drive : Drive α} (reads : Reads drive) : FailsIdly entry drive := by
  intro session failure after failed
  have same := reads session
  rw [failed] at same
  exact .inl same

/-- Nothing can fail behind an operation that only hands its answer on. -/
theorem FailsIdly.map {drive : Drive α} (idle : FailsIdly entry drive) (answer : α → β)
    : FailsIdly entry (do return answer (← drive)) := by
  intro session failure after failed
  rw [outcome_bind] at failed
  cases ended : outcome drive session with
  | mk ending middle =>
      rw [ended] at failed
      cases ending with
      | ok value => cases failed
      | error error =>
          cases failed
          exact idle ended

theorem failsIdly_navigate (url : String) : FailsIdly entry (navigate url) := by
  intro session failure after failed
  rw [outcome_navigate] at failed
  split at failed
  · cases failed
    exact .inl rfl
  · cases failed

/-- A click is written down before the element is looked for, and cannot fail once it is found. -/
theorem failsIdly_click (key : String) : FailsIdly (some (.click key)) (click key) := by
  intro session failure after failed
  rw [outcome_click] at failed
  cases reached : session.elementAt key with
  | error error =>
      rw [reached] at failed
      cases failed
      exact .inr ⟨_, rfl, rfl⟩
  | ok clicked =>
      simp only [reached] at failed
      cases leads : clicked.target? with
      | some url =>
          rw [leads] at failed
          cases failed
      | none =>
          rw [leads] at failed
          cases failed

theorem failsIdly_typeText (key text : String)
    : FailsIdly (some (.typed key text)) (typeText key text) := by
  intro session failure after failed
  rw [outcome_typeText] at failed
  cases reached : session.elementAt key with
  | error error =>
      rw [reached] at failed
      cases failed
      exact .inr ⟨_, rfl, rfl⟩
  | ok element =>
      rw [reached] at failed
      cases failed

/-- Neither a missing element nor a missing option changes more than the journal. -/
theorem failsIdly_setChoice (key value : String) (selected : Bool)
    : FailsIdly (Call.setChoice key value selected).noted? (setChoice key value selected) := by
  intro session failure after failed
  rw [outcome_setChoice] at failed
  -- The entry comes before the element is looked for, and nothing else does.
  have noted
      : session.NotesAtMost (Call.setChoice key value selected).noted?
          (if selected then session.noting (.select key value) else session) := by
    cases selected with
    | true => exact .inr ⟨_, rfl, rfl⟩
    | false => exact .inl rfl
  generalize (if selected then session.noting (.select key value) else session) = begun
    at failed noted
  cases reached : begun.elementAt key with
  | error error =>
      simp only [reached] at failed
      cases failed
      exact noted
  | ok target =>
      simp only [reached] at failed
      cases found : target.choiceAt? value with
      | none =>
          rw [found] at failed
          cases failed
          exact noted
      | some place =>
          rw [found] at failed
          cases failed

theorem failsIdly_closeAlert : FailsIdly entry closeAlert := by
  intro session failure after failed
  rw [outcome_closeAlert] at failed
  cases shown : session.alertShown with
  | error error =>
      rw [shown] at failed
      cases failed
      exact .inl rfl
  | ok text =>
      rw [shown] at failed
      cases failed

/-- Closing a session that is closed does nothing. -/
theorem outcome_close_of_closed {session : Session} (closed : session.closed = true)
    : outcome close session = (.ok (), session) := by
  unfold close
  rw [outcome_bind_of_ok (outcome_get session), closed]
  rfl

theorem failsIdly_close : FailsIdly entry close := by
  intro session failure after failed
  cases closed : session.closed with
  | true =>
      rw [outcome_close_of_closed closed] at failed
      cases failed
  | false =>
      rw [outcome_close closed] at failed
      cases failed

end Drive

namespace Call

open Drive

/-- A call that fails leaves the session as it was, but for its own entry, by cases on the call. -/
theorem failsIdly_perform (call : Call) : FailsIdly call.noted? call.perform := by
  cases call with
  | navigate url => exact (failsIdly_navigate url).map fun _ => Answer.done
  | click key => exact (failsIdly_click key).map fun _ => Answer.done
  | typeText key text => exact (failsIdly_typeText key text).map fun _ => Answer.done
  | setChoice key value selected =>
      exact (failsIdly_setChoice key value selected).map fun _ => Answer.done
  | acceptAlert | dismissAlert => exact failsIdly_closeAlert.map fun _ => Answer.done
  | close => exact failsIdly_close.map fun _ => Answer.done
  | _ => exact (reads_perform rfl).failsIdly

end Call

-----------------------------------------------------------------------------------------
-- Calls of a closed session
-----------------------------------------------------------------------------------------

namespace Drive

variable {α β : Type}

/-- An operation that a closed session refuses. -/
def NeedsWindow (drive : Drive α) : Prop :=
  ∀ session : Session,
    session.closed = true
    → (outcome drive session).1 = .error (.noSuchWindow "session closed")

theorem needsWindow_opened : NeedsWindow opened := by
  intro session closed
  rw [outcome_opened, if_pos closed]

/-- What starts with an operation that is refused is refused. -/
theorem NeedsWindow.bind {drive : Drive α} (needs : NeedsWindow drive) (next : α → Drive β)
    : NeedsWindow (drive >>= next) := by
  intro session closed
  have refused := needs session closed
  cases ended : outcome drive session with
  | mk ending after =>
      rw [ended] at refused
      cases refused
      rw [outcome_bind_of_error ended]

/-- An entry may be written before an operation is refused. -/
theorem NeedsWindow.noted {drive : Unit → Drive α} (needs : NeedsWindow (drive ())) (entry : Entry)
    : NeedsWindow (record entry >>= drive) := by
  intro session closed
  rw [outcome_bind_of_ok (outcome_record entry session)]
  exact needs (session.noting entry) closed

theorem needsWindow_element (key : String) : NeedsWindow (element key) :=
  needsWindow_opened.bind _

theorem needsWindow_setChoice (key value : String) (selected : Bool)
    : NeedsWindow (setChoice key value selected) := by
  cases selected with
  | true => exact NeedsWindow.noted ((needsWindow_element key).bind _) _
  | false => exact (needsWindow_element key).bind _

end Drive

namespace Call

open Drive

/-- A closed session refuses every call but the closing one, by cases on the call. -/
theorem needsWindow_perform {call : Call} (open_ : call ≠ .close) : NeedsWindow call.perform := by
  cases call with
  | navigate _ | currentUrl | title | find _ | showsContent _ | alertText =>
      exact (needsWindow_opened.bind _).bind _
  | acceptAlert | dismissAlert => exact ((needsWindow_opened.bind _).bind _).bind _
  | text key | attributeOf key _ | isSelected key | isDisplayed key | choices key =>
      exact ((needsWindow_element key).bind _).bind _
  | click key | typeText key _ =>
      exact (NeedsWindow.noted ((needsWindow_element key).bind _) _).bind _
  | setChoice key value selected => exact (needsWindow_setChoice key value selected).bind _
  | close => exact absurd rfl open_

-----------------------------------------------------------------------------------------
-- The entry that says that a session was closed
-----------------------------------------------------------------------------------------

/-- What a call adds to the journal, and what it does to the window: only the closing call of an
open session writes that it was closed, and nothing else then.
-/
theorem exists_entries_perform (call : Call) (session : Session)
    : ∃ entries,
        (call.perform.on session).2.journal = session.journal ++ entries
        ∧ (if call = .close ∧ session.closed = false then entries = [.close] else .close ∉ entries)
        ∧ ((call.perform.on session).2.closed = true ↔ session.closed = true ∨ call = .close) := by
  by_cases closing : call = .close
  · subst closing
    have ending : (close.perform.on session).2 = (outcome Drive.close session).2 := by
      cases closed : session.closed with
      | true =>
          rw [outcome_close_of_closed closed]
          exact congrArg Prod.snd (outcome_bind_of_ok (outcome_close_of_closed closed))
      | false =>
          rw [outcome_close closed]
          exact congrArg Prod.snd (outcome_bind_of_ok (outcome_close closed))
    rw [ending]
    cases closed : session.closed with
    | true =>
        rw [outcome_close_of_closed closed]
        exact ⟨[], by simp, by simp, by simp [closed]⟩
    | false =>
        rw [outcome_close closed]
        exact ⟨[.close], rfl, by simp, by simp⟩
  · have continues := continues_perform closing session
    obtain ⟨entries, grown, inner⟩ := continues.journal
    refine ⟨entries, grown, ?_, ?_⟩
    · rw [if_neg fun both => closing both.1]
      exact fun member => (inner _ member).2 rfl
    · change (outcome call.perform session).2.closed = true ↔ _
      simp [continues.closed, closing]

/-- A session is closed after some calls if it was so before or one of them closes it, by induction
on the calls.
-/
theorem closed_performAll_iff (calls : List Call) (session : Session)
    : (performAll calls session).2.closed = true
      ↔ session.closed = true ∨ .close ∈ calls := by
  induction calls generalizing session with
  | nil => simp [performAll]
  | cons call rest ih =>
      obtain ⟨_, _, _, closes⟩ := exists_entries_perform call session
      change (performAll rest (call.perform.on session).2).2.closed = true ↔ _
      rw [ih, closes, List.mem_cons, or_assoc, eq_comm (a := Call.close)]

/-- The call at a place is made in the session that the calls ahead of it have left. -/
theorem performAll_take_succ {calls : List Call} {place : Nat} {call : Call}
    (here : calls[place]? = some call) (session : Session)
    : (performAll (calls.take (place + 1)) session).2
      = (call.perform.on (performAll (calls.take place) session).2).2 := by
  rw [List.take_add_one, here, performAll_append]
  rfl

end Call

/-- A call that fails leaves the site, the address, the page with its alert, and the window of the
session as they were, and the journal gains the entry of this call at most. In a closed session
every call but the closing one fails, since there is no window. In any calls of a session the
closing of it is written down by the first closing call, unless the session was closed before, and
by no other call.
-/
theorem refusals_idle
    : (∀ (call : Call) {session after : Session} {failure : Failure},
        call.perform.on session = (.error failure, after)
        → session.NotesAtMost call.noted? after)
      ∧ (∀ (call : Call) {session : Session},
          session.closed = true
          → call ≠ .close
          → (call.perform.on session).1 = .error (.noSuchWindow "session closed"))
      ∧ ∀ (calls : List Call) (session : Session) (place : Nat) {call : Call},
          calls[place]? = some call
          → ∃ entries,
              (Call.performAll (calls.take (place + 1)) session).2.journal
                = (Call.performAll (calls.take place) session).2.journal ++ entries
              ∧ if session.closed = false ∧ call = .close ∧ .close ∉ calls.take place then
                  entries = [.close]
                else .close ∉ entries := by
  refine ⟨fun call _ _ _ failed => Call.failsIdly_perform call failed,
    fun call session closed open_ => Call.needsWindow_perform open_ session closed, ?_⟩
  intro calls session place call here
  obtain ⟨entries, grown, closing, _⟩ :=
    Call.exists_entries_perform call (Call.performAll (calls.take place) session).2
  have isOpen
      : (Call.performAll (calls.take place) session).2.closed = false
        ↔ session.closed = false ∧ .close ∉ calls.take place := by
    rw [← Bool.not_eq_true, Call.closed_performAll_iff, not_or, Bool.not_eq_true]
  refine ⟨entries, ?_, ?_⟩
  · rw [Call.performAll_take_succ here, grown]
  · simpa only [isOpen, and_left_comm] using closing

/-- What is done to a form that is left and closed twice. -/
def formLeaving : List Call :=
  [.navigate "form", .close, .title, .close]

/-- A click on what the form does not have is only written down, a form that is closed has no title,
and leaving it is written down at the first closing call and not at the second.
-/
theorem form_refusals
    : let shown := (Call.performAll (formLeaving.take 1) (.launch formSite)).2
      let left := (Call.performAll (formLeaving.take 2) (.launch formSite)).2
      let leftAgain := (Call.performAll (formLeaving.take 4) (.launch formSite)).2
      shown.NotesAtMost (some (.click "#missing")) ((Call.click "#missing").perform.on shown).2
      ∧ (Call.title.perform.on left).1 = .error (.noSuchWindow "session closed")
      ∧ left.journal = shown.journal ++ [.close]
      ∧ ∃ entries,
          leftAgain.journal
            = (Call.performAll (formLeaving.take 3) (.launch formSite)).2.journal ++ entries
          ∧ .close ∉ entries := by
  obtain ⟨idle, refused, closing⟩ := refusals_idle
  obtain ⟨first, grown, written⟩ := closing formLeaving (.launch formSite) 1 rfl
  obtain ⟨second, grownAgain, unwritten⟩ := closing formLeaving (.launch formSite) 3 rfl
  rw [if_pos (by decide)] at written
  rw [if_neg (by decide)] at unwritten
  exact ⟨idle (.click "#missing") rfl, refused .title rfl (by decide), written ▸ grown,
    second, grownAgain, unwritten⟩

end Rehearsal.Browser
