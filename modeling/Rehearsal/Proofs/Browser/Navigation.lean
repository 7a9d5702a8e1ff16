import Rehearsal.Proofs.Browser.Effect

/-! Going to an address forgets what was done before. From there on, two sessions of one site answer
alike and show the same page, whatever was typed, clicked or chosen in them earlier; only the
journals may tell them apart, and no operation looks at a journal.
-/

namespace Rehearsal.Browser

-----------------------------------------------------------------------------------------
-- Sessions that differ in their journals at most
-----------------------------------------------------------------------------------------

/-- Sessions of one site, at one address, on one page, both open or both closed. -/
structure Session.Alike (first second : Session) : Prop where
  site : second.site = first.site
  url : second.url = first.url
  page : second.page = first.page
  closed : second.closed = first.closed

namespace Drive

variable {α β : Type}

/-- Begun in sessions that are alike, an operation ends the same in both and leaves them alike. -/
def IgnoresJournal (drive : Drive α) : Prop :=
  ∀ first second : Session,
    first.Alike second
    → (outcome drive second).1 = (outcome drive first).1
      ∧ (outcome drive first).2.Alike (outcome drive second).2

namespace IgnoresJournal

theorem pure (value : α) : IgnoresJournal (Pure.pure value) :=
  fun _ _ alike => ⟨rfl, alike⟩

theorem fail (failure : Failure) : IgnoresJournal (Drive.fail failure : Drive α) :=
  fun _ _ alike => ⟨rfl, alike⟩

theorem record (entry : Entry) : IgnoresJournal (Drive.record entry) :=
  fun _ _ alike => ⟨rfl, alike.site, alike.url, alike.page, alike.closed⟩

theorem changePage (change : Page → Page) : IgnoresJournal (Drive.changePage change) :=
  fun _ _ alike => ⟨rfl, alike.site, alike.url, congrArg change alike.page, alike.closed⟩

theorem bind {drive : Drive α} {next : α → Drive β} (ignores : IgnoresJournal drive)
    (rest : ∀ value, IgnoresJournal (next value))
    : IgnoresJournal (drive >>= next) := by
  intro first second alike
  obtain ⟨same, between⟩ := ignores first second alike
  rw [outcome_bind, outcome_bind]
  cases ended : outcome drive first with
  | mk ending after =>
      cases ended' : outcome drive second with
      | mk ending' after' =>
          rw [ended, ended'] at same between
          cases same
          cases ending with
          | error failure => exact ⟨rfl, between⟩
          | ok value => exact rest value after after' between

/-- What an operation goes on to do after a look at the session must not hang on the journal. -/
theorem opened_bind {next : Session → Drive α}
    (same : ∀ first second : Session, first.Alike second → next second = next first)
    (rest : ∀ session, IgnoresJournal (next session))
    : IgnoresJournal (opened >>= next) := by
  intro first second alike
  rw [outcome_bind, outcome_bind, outcome_opened, outcome_opened, alike.closed]
  cases first.closed with
  | true => exact ⟨rfl, alike⟩
  | false =>
      simp only [Bool.false_eq_true, ↓reduceIte]
      rw [same first second alike]
      exact rest first first second alike

end IgnoresJournal

open IgnoresJournal

theorem ignores_element (key : String) : IgnoresJournal (element key) :=
  opened_bind (fun _ _ alike => by rw [alike.page]) fun session => by
    cases session.page.elements.get? key with
    | none => exact .fail _
    | some element => exact .pure element

theorem ignores_find (locator : Locator) : IgnoresJournal (find locator) :=
  opened_bind (fun _ _ alike => by rw [alike.page]) fun session => by
    split
    · exact .pure _
    · exact .fail _

theorem ignores_alertText : IgnoresJournal alertText :=
  opened_bind (fun _ _ alike => by rw [alike.page]) fun session => by
    cases session.page.alert with
    | none => exact .fail _
    | some text => exact .pure text

theorem ignores_navigate (url : String) : IgnoresJournal (navigate url) :=
  opened_bind (fun _ _ alike => by rw [alike.site]) fun session =>
    (IgnoresJournal.record (.navigate url)).bind fun _ =>
      fun _ _ alike => ⟨rfl, alike.site, rfl, rfl, alike.closed⟩

theorem ignores_click (key : String) : IgnoresJournal (click key) := by
  apply (IgnoresJournal.record (.click key)).bind
  intro _
  apply (ignores_element key).bind
  intro clicked
  cases clicked.target? with
  | some url => exact ignores_navigate url
  | none => exact .changePage _

theorem ignores_typeText (key text : String) : IgnoresJournal (typeText key text) :=
  (IgnoresJournal.record (.typed key text)).bind fun _ =>
    (ignores_element key).bind fun _ => .changePage _

theorem ignores_setChoice (key value : String) (selected : Bool)
    : IgnoresJournal (setChoice key value selected) := by
  unfold setChoice
  extract_lets choose
  have chosen : IgnoresJournal (choose ⟨⟩) := by
    apply (ignores_element key).bind
    intro target
    cases target.choiceAt? value with
    | none => exact .fail _
    | some place => exact .changePage _
  cases selected with
  | false => exact chosen
  | true => exact (IgnoresJournal.record (.select key value)).bind fun _ => chosen

theorem ignores_closeAlert : IgnoresJournal closeAlert :=
  ignores_alertText.bind fun _ => .changePage _

theorem ignores_close : IgnoresJournal close := by
  intro first second alike
  unfold close
  rw [outcome_bind_of_ok (outcome_get first), outcome_bind_of_ok (outcome_get second),
    alike.closed]
  cases first.closed with
  | true => exact ⟨rfl, alike⟩
  | false => exact ⟨rfl, alike.site, alike.url, alike.page, rfl⟩

end Drive

-----------------------------------------------------------------------------------------
-- Calls
-----------------------------------------------------------------------------------------

namespace Call

open Drive

/-- No call looks at the journal, by cases on the call. -/
theorem ignores_perform (call : Call) : IgnoresJournal call.perform := by
  have answering {α : Type} {drive : Drive α} (ignores : IgnoresJournal drive)
      (answer : α → Answer) : IgnoresJournal (do return answer (← drive)) :=
    ignores.bind fun value => .pure (answer value)
  have field {α : Type} (field : Session → α)
      (same : ∀ first second : Session, first.Alike second → field second = field first)
      : IgnoresJournal (do return field (← opened)) :=
    .opened_bind (fun first second alike => by rw [same first second alike]) fun _ => .pure _
  cases call with
  | navigate url => exact answering (ignores_navigate url) _
  | currentUrl => exact answering (field Session.url fun _ _ alike => alike.url) _
  | title => exact answering (field _ fun _ _ alike => congrArg Page.title alike.page) _
  | find locator => exact answering (ignores_find locator) _
  | click key => exact answering (ignores_click key) _
  | typeText key text => exact answering (ignores_typeText key text) _
  | text key => exact answering ((ignores_element key).bind fun _ => .pure _) _
  | attributeOf key name => exact answering ((ignores_element key).bind fun _ => .pure _) _
  | isSelected key => exact answering ((ignores_element key).bind fun _ => .pure _) _
  | isDisplayed key => exact answering ((ignores_element key).bind fun _ => .pure _) _
  | choices key => exact answering ((ignores_element key).bind fun _ => .pure _) _
  | setChoice key value selected => exact answering (ignores_setChoice key value selected) _
  | showsContent content =>
      exact answering (field _ fun _ _ alike => congrArg (Page.shows · content) alike.page) _
  | alertText => exact answering ignores_alertText _
  | acceptAlert | dismissAlert => exact answering ignores_closeAlert _
  | close => exact answering ignores_close _

/-- Sessions that are alike answer calls alike and stay alike, by induction on the calls. -/
theorem ignores_performAll (calls : List Call) {first second : Session}
    (alike : first.Alike second)
    : (performAll calls second).1 = (performAll calls first).1
      ∧ (performAll calls first).2.Alike (performAll calls second).2 := by
  induction calls generalizing first second with
  | nil => exact ⟨rfl, alike⟩
  | cons call rest ih =>
      obtain ⟨answer, next⟩ := ignores_perform call first second alike
      obtain ⟨answers, last⟩ := ih next
      exact ⟨List.cons_eq_cons.mpr ⟨answer, answers⟩, last⟩

theorem length_performAll (calls : List Call) (session : Session)
    : (performAll calls session).1.length = calls.length := by
  induction calls generalizing session with
  | nil => rfl
  | cons call rest ih => simp [performAll, ih]

end Call

-----------------------------------------------------------------------------------------
-- Navigation
-----------------------------------------------------------------------------------------

/-- Calls that do not close a session leave it open. -/
theorem Call.closed_performAll {calls : List Call} (closeless : .close ∉ calls) (session : Session)
    : (performAll calls session).2.closed = session.closed :=
  (Session.ByCalls.continues ⟨calls, closeless, rfl⟩).closed

/-- An open session that goes to an address, after calls that leave it open, gets there; what
follows is done from there.
-/
theorem Call.performAll_navigation {session : Session} {before : List Call}
    (isOpen : session.closed = false) (closeless : .close ∉ before) (url : String)
    (calls : List Call)
    : performAll (before ++ .navigate url :: calls) session
      = let shown := (performAll before session).2.showing url
        ((performAll before session).1 ++ .ok .done :: (performAll calls shown).1,
          (performAll calls shown).2) := by
  have reached : (performAll before session).2.closed = false :=
    (closed_performAll closeless session).trans isOpen
  have navigated
      : (Call.navigate url).perform.on (performAll before session).2
        = (.ok .done, (performAll before session).2.showing url) := by
    have gone
        : outcome (Drive.navigate url) (performAll before session).2
          = (.ok (), (performAll before session).2.showing url) := by
      simp [Drive.outcome_navigate, reached]
    exact outcome_bind_of_ok gone
  rw [performAll_append]
  simp only [performAll, navigated]

/-- Sessions that have gone to the same address of one site are alike, wherever they came from. -/
theorem Session.Alike.of_showing {first second : Session} (site : second.site = first.site)
    (closed : second.closed = first.closed) (url : String)
    : (first.showing url).Alike (second.showing url) :=
  ⟨site, rfl, congrArg (Site.page · url) site, closed⟩

/-- Two open sessions of a site go to the same address after any calls that do not close them. From
there on they give the same answers to the same calls, and end on the same page at the same address.
The first of these answers is that they got there, on the page that the site has at the address or,
where it has none, an empty page.
-/
theorem alike_after_navigation {site : Site} {left right : Session} {before other : List Call}
    (sites : left.site = site ∧ right.site = site)
    (openings : left.closed = false ∧ right.closed = false)
    (closeless : .close ∉ before ∧ .close ∉ other) (url : String) (calls : List Call)
    : let onLeft := Call.performAll (before ++ .navigate url :: calls) left
      let onRight := Call.performAll (other ++ .navigate url :: calls) right
      let shown := (Call.performAll (before ++ [.navigate url]) left).2
      onLeft.1.drop before.length = onRight.1.drop other.length
      ∧ onLeft.2.page = onRight.2.page
      ∧ onLeft.2.url = onRight.2.url
      ∧ onLeft.1[before.length]? = some (.ok .done)
      ∧ shown.url = url
      ∧ shown.page = (site.get? url).getD ∅ := by
  obtain ⟨siteLeft, siteRight⟩ := sites
  have alike
      : ((Call.performAll before left).2.showing url).Alike
          ((Call.performAll other right).2.showing url) := by
    apply Session.Alike.of_showing
    · rw [Call.site_performAll, Call.site_performAll, siteLeft, siteRight]
    · rw [Call.closed_performAll closeless.1, Call.closed_performAll closeless.2, openings.1,
        openings.2]
  obtain ⟨answers, ends⟩ := Call.ignores_performAll calls alike
  simp only [Call.performAll_navigation openings.1 closeless.1,
    Call.performAll_navigation openings.2 closeless.2]
  refine ⟨?_, ends.page.symm, ends.url.symm, ?_, rfl, ?_⟩
  · rw [List.drop_left' (Call.length_performAll before left),
      List.drop_left' (Call.length_performAll other right), answers]
  · rw [List.getElem?_append_right (Nat.le_of_eq (Call.length_performAll before left)),
      Call.length_performAll, Nat.sub_self]
    rfl
  · change Site.page (Call.performAll before left).2.site url = _
    rw [Call.site_performAll, siteLeft]
    rfl

/-- A page with an alert, a field and a checkbox. -/
def formSite : Site :=
  Dict.ofList
    [("form",
      (({ title := "Form", alert := some "Welcome" } : Page).withElement "#name" {}).withElement
        "#news" (.checkbox false))]

def formUse : List Call :=
  [.navigate "form", .acceptAlert, .typeText "#name" "Ann", .click "#news", .click "#missing"]

def formChecks : List Call :=
  [.alertText, .attributeOf "#name" "value", .isSelected "#news", .close, .title]

/-- A form that has been filled in is empty again, and answers like one that has never been used. -/
theorem form_alike_after_navigation
    : let used := Call.performAll (formUse ++ .navigate "form" :: formChecks) (.launch formSite)
      let unused := Call.performAll ([] ++ .navigate "form" :: formChecks) (.launch formSite)
      .close ∉ formUse
      ∧ used.1.drop formUse.length = unused.1.drop 0
      ∧ unused.1.drop 0
        = [.ok .done, .ok (.text "Welcome"), .ok (.textOrNone (some "")), .ok (.truth false),
          .ok .done, .error (.noSuchWindow "session closed")] := by
  have closeless : .close ∉ formUse ∧ .close ∉ ([] : List Call) := by decide
  have isOpen : (Session.launch formSite).closed = false := rfl
  have alike :=
    alike_after_navigation ⟨rfl, rfl⟩ ⟨isOpen, isOpen⟩ closeless "form" formChecks
  exact ⟨closeless.1, alike.1, rfl⟩

end Rehearsal.Browser
