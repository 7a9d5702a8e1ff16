import Rehearsal.Browser.Call
import Rehearsal.Proofs.Outcome

/-! What the calls of a session do to its journal: they append to it, and unless one of them
closes the session, it stays as open as it was.
-/

namespace Rehearsal.Browser

/-- An entry that marks neither the start nor the end of a session. -/
def Entry.Inner (entry : Entry) : Prop :=
  entry ≠ .launch ∧ entry ≠ .close

/-- A later state of the same session: its journal has grown by inner entries only. -/
structure Session.Continues (before after : Session) : Prop where
  closed : after.closed = before.closed
  journal
    : ∃ entries, after.journal = before.journal ++ entries ∧ ∀ entry ∈ entries, entry.Inner

namespace Session.Continues

theorem refl (session : Session) : session.Continues session :=
  ⟨rfl, [], by simp, by simp⟩

theorem trans {first second third : Session} (left : first.Continues second)
    (right : second.Continues third)
    : first.Continues third := by
  obtain ⟨entries, grown, inner⟩ := left.journal
  obtain ⟨more, grownMore, innerMore⟩ := right.journal
  refine ⟨right.closed.trans left.closed, entries ++ more, ?_, ?_⟩
  · rw [grownMore, grown, List.append_assoc]
  · intro entry member
    rcases List.mem_append.mp member with earlier | later
    · exact inner entry earlier
    · exact innerMore entry later

end Session.Continues

namespace Drive

variable {α β : Type}

/-- An operation that leaves the session as it is. -/
def Reads (drive : Drive α) : Prop :=
  Moves (fun before after => after = before) drive

/-- An operation that only continues the session. -/
abbrev Continues (drive : Drive α) : Prop :=
  Moves Session.Continues drive

theorem Reads.pure (value : α) : Reads (Pure.pure value) :=
  fun _ => rfl

theorem Reads.fail (failure : Failure) : Reads (fail failure : Drive α) :=
  fun _ => rfl

theorem Reads.bind {drive : Drive α} {next : α → Drive β} (first : Reads drive)
    (rest : ∀ value, Reads (next value))
    : Reads (drive >>= next) :=
  Moves.bind (fun left right => right.trans left) first rest

theorem Reads.continues {drive : Drive α} (reads : Reads drive) : Continues drive := by
  intro session
  rw [reads session]
  exact .refl session

theorem Continues.bind {drive : Drive α} {next : α → Drive β} (first : Continues drive)
    (rest : ∀ value, Continues (next value))
    : Continues (drive >>= next) :=
  Moves.bind .trans first rest

-----------------------------------------------------------------------------------------
-- The operations of a session
-----------------------------------------------------------------------------------------

/-- An operation on an open session looks at it first. -/
theorem outcome_opened (session : Session)
    : outcome opened session
      = (if session.closed then .error (.noSuchWindow "session closed") else .ok session,
        session) := by
  unfold opened
  rw [outcome_bind_of_ok (outcome_get session)]
  split <;> rfl

theorem reads_opened : Reads opened := fun session => by
  rw [outcome_opened]

theorem reads_element (key : String) : Reads (element key) :=
  reads_opened.bind fun session => by
    cases session.page.elements.get? key with
    | none => exact .fail _
    | some element => exact .pure element

theorem reads_find (locator : Locator) : Reads (find locator) :=
  reads_opened.bind fun session => by
    split
    · exact .pure _
    · exact .fail _

theorem reads_alertText : Reads alertText :=
  reads_opened.bind fun session => by
    cases session.page.alert with
    | none => exact .fail _
    | some text => exact .pure text

theorem continues_record {entry : Entry} (inner : entry.Inner) : Continues (record entry) :=
  fun _ => ⟨rfl, [entry], rfl, by simpa using inner⟩

/-- A change of the page or the address writes nothing. -/
theorem continues_modify {change : Session → Session}
    (closed : ∀ session, (change session).closed = session.closed)
    (journal : ∀ session, (change session).journal = session.journal)
    : Continues (modify change) :=
  fun session => ⟨closed session, [], (journal session).trans (by simp), by simp⟩

theorem continues_navigate (url : String) : Continues (navigate url) :=
  reads_opened.continues.bind fun _ =>
    .bind (continues_record (by simp [Entry.Inner])) fun _ =>
      continues_modify (fun _ => rfl) fun _ => rfl

theorem continues_click (key : String) : Continues (click key) := by
  refine .bind (continues_record (by simp [Entry.Inner])) fun _ => ?_
  refine .bind (reads_element key).continues fun clicked => ?_
  cases clicked.target? with
  | some url => exact continues_navigate url
  | none => exact continues_modify (fun _ => rfl) fun _ => rfl

theorem continues_typeText (key text : String) : Continues (typeText key text) :=
  .bind (continues_record (by simp [Entry.Inner])) fun _ =>
    .bind (reads_element key).continues fun _ => continues_modify (fun _ => rfl) fun _ => rfl

theorem continues_setChoice (key value : String) (selected : Bool)
    : Continues (setChoice key value selected) := by
  unfold setChoice
  extract_lets choose
  have chosen : Continues (choose ⟨⟩) := by
    refine .bind (reads_element key).continues fun target => ?_
    cases target.choiceAt? value with
    | none => exact (Reads.fail _).continues
    | some place => exact continues_modify (fun _ => rfl) fun _ => rfl
  cases selected with
  | false => exact chosen
  | true => exact .bind (continues_record (by simp [Entry.Inner])) fun _ => chosen

theorem continues_closeAlert : Continues closeAlert :=
  .bind reads_alertText.continues fun _ => continues_modify (fun _ => rfl) fun _ => rfl

end Drive

-----------------------------------------------------------------------------------------
-- Calls, and what comes of several of them
-----------------------------------------------------------------------------------------

namespace Call

open Drive

/-- Every call but the closing one continues the session, by cases on the call. -/
theorem continues_perform {call : Call} (open_ : call ≠ .close) : Continues call.perform := by
  have answering {α : Type} {drive : Drive α} (continues : Continues drive)
      (answer : α → Answer) : Continues (do return answer (← drive)) :=
    continues.bind fun value => (Reads.pure (answer value)).continues
  have doing {drive : Drive Unit} (continues : Continues drive)
      : Continues (do drive; return Answer.done) :=
    answering continues fun _ => .done
  cases call with
  | navigate url => exact doing (continues_navigate url)
  | currentUrl => exact answering (reads_opened.bind fun _ => .pure _).continues _
  | title => exact answering (reads_opened.bind fun _ => .pure _).continues _
  | find locator => exact answering (reads_find locator).continues _
  | click key => exact doing (continues_click key)
  | typeText key text => exact doing (continues_typeText key text)
  | text key => exact answering ((reads_element key).bind fun _ => .pure _).continues _
  | attributeOf key name => exact answering ((reads_element key).bind fun _ => .pure _).continues _
  | isSelected key => exact answering ((reads_element key).bind fun _ => .pure _).continues _
  | isDisplayed key => exact answering ((reads_element key).bind fun _ => .pure _).continues _
  | choices key => exact answering ((reads_element key).bind fun _ => .pure _).continues _
  | setChoice key value selected => exact doing (continues_setChoice key value selected)
  | showsContent content => exact answering (reads_opened.bind fun _ => .pure _).continues _
  | alertText => exact answering reads_alertText.continues _
  | acceptAlert => exact doing continues_closeAlert
  | dismissAlert => exact doing continues_closeAlert
  | close => exact absurd rfl open_

theorem performAll_append (first second : List Call) (session : Session)
    : performAll (first ++ second) session
      = ((performAll first session).1 ++ (performAll second (performAll first session).2).1,
        (performAll second (performAll first session).2).2) := by
  induction first generalizing session with
  | nil => rfl
  | cons call rest ih => simp [performAll, ih]

end Call

/-- The later state comes of calls, none of which closes the session. -/
def Session.ByCalls (before after : Session) : Prop :=
  ∃ calls, .close ∉ calls ∧ after = (Call.performAll calls before).2

namespace Session.ByCalls

theorem refl (session : Session) : session.ByCalls session :=
  ⟨[], by simp, rfl⟩

theorem trans {first second third : Session} (left : first.ByCalls second)
    (right : second.ByCalls third)
    : first.ByCalls third := by
  obtain ⟨calls, closeless, rfl⟩ := left
  obtain ⟨more, closelessMore, rfl⟩ := right
  exact ⟨calls ++ more, by simp [closeless, closelessMore],
    (congrArg Prod.snd (Call.performAll_append calls more first)).symm⟩

/-- Calls that do not close a session continue it, by induction on the calls. -/
theorem continues {before after : Session} (byCalls : before.ByCalls after)
    : before.Continues after := by
  obtain ⟨calls, closeless, rfl⟩ := byCalls
  induction calls generalizing before with
  | nil => exact .refl before
  | cons call rest ih =>
      obtain ⟨first, later⟩ := not_or.mp fun member => closeless (List.mem_cons.mpr member)
      exact (Call.continues_perform (Ne.symm first) before).trans (ih later)

end Session.ByCalls

/-- Closing an open session writes one entry. -/
theorem outcome_close {session : Session} (isOpen : session.closed = false)
    : outcome Drive.close session
      = (.ok (), { session with closed := true, journal := session.journal ++ [.close] }) := by
  unfold Drive.close
  rw [outcome_bind_of_ok (outcome_get session), isOpen]
  rfl

end Rehearsal.Browser
