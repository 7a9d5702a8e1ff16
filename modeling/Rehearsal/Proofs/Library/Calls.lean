import Rehearsal.Library
import Rehearsal.Proofs.Browser.Journal

/-! The built-in handlers work by calls of the session, and none of them closes it. Those that
check something leave the session as it is.
-/

namespace Rehearsal

open Browser

/-- A handler works by calls of the session, none of which closes it. -/
def Handler.WorksByCalls (handler : Handler) : Prop :=
  ∀ args, Moves Session.ByCalls (handler args)

/-- All known forms have handlers that work by calls. -/
def DirectiveRegistry.WorksByCalls (registry : DirectiveRegistry) : Prop :=
  ∀ form ∈ registry.forms, form.handler.WorksByCalls

namespace Browser.Drive

variable {α β : Type}

/-- What looks at a session makes no calls that matter to it. -/
theorem Reads.byCalls {drive : Drive α} (reads : Reads drive) : Moves Session.ByCalls drive := by
  intro session
  rw [reads session]
  exact .refl session

theorem byCalls_bind {drive : Drive α} {next : α → Drive β} (first : Moves Session.ByCalls drive)
    (rest : ∀ value, Moves Session.ByCalls (next value))
    : Moves Session.ByCalls (drive >>= next) :=
  Moves.bind .trans first rest

/-- An operation that a call performs is made by that call. -/
theorem byCalls_of_perform {drive : Drive Unit} {call : Call} (open_ : call ≠ .close)
    (performs : call.perform = do drive; return .done)
    : Moves Session.ByCalls drive := by
  intro session
  refine ⟨[call], by simpa using Ne.symm open_, ?_⟩
  change _ = (outcome call.perform session).2
  rw [performs, outcome_bind]
  cases outcome drive session with
  | mk ending after => cases ending <;> rfl

theorem Reads.tryCatch {drive : Drive α} {rescue : Failure → Drive α} (reads : Reads drive)
    (rescuing : ∀ failure, Reads (rescue failure))
    : Reads (tryCatch drive rescue) := by
  intro session
  have same := reads session
  rw [outcome_tryCatch]
  cases ended : outcome drive session with
  | mk ending after =>
      rw [ended] at same
      subst same
      cases ending with
      | ok value => rfl
      | error failure => exact rescuing failure _

end Browser.Drive

namespace Library

open Drive

variable {args : Args}

-----------------------------------------------------------------------------------------
-- Arguments and expectations look only
-----------------------------------------------------------------------------------------

theorem reads_argument (args : Args) (name : String) : Reads (argument args name) := by
  unfold argument
  cases args.get? name with
  | none => exact .fail _
  | some value => exact .pure value

theorem reads_element (args : Args) : Reads (element args) :=
  (reads_argument args "elem").bind fun _ => reads_find _

theorem reads_seconds (args : Args) : Reads (seconds args) := by
  refine (reads_argument args "seconds").bind fun raw => ?_
  cases Duration.ofText? raw with
  | none => exact .fail _
  | some duration => exact .pure duration

theorem reads_items (args : Args) : Reads (items args) :=
  (reads_argument args "list").bind fun _ => .pure _

theorem reads_expression (args : Args) : Reads (expression args) := by
  refine (reads_argument args "regexp").bind fun raw => ?_
  cases Pattern.ofText false raw with
  | error error => exact .fail _
  | ok pattern => exact .pure pattern

theorem reads_expect (condition : Bool) (complaint : String)
    : Reads (expect condition complaint) := by
  cases condition with
  | false => exact .fail _
  | true => exact .pure none

theorem reads_text (key : String) : Reads (Drive.text key) :=
  (Drive.reads_element key).bind fun _ => .pure _

theorem reads_attribute (key name : String) : Reads (Drive.attribute? key name) :=
  (Drive.reads_element key).bind fun _ => .pure _

theorem reads_isSelected (key : String) : Reads (Drive.isSelected key) :=
  (Drive.reads_element key).bind fun _ => .pure _

theorem reads_choices (key : String) : Reads (Drive.choices key) :=
  (Drive.reads_element key).bind fun _ => .pure _

theorem reads_opened_field {α : Type} (field : Session → α)
    : Reads (do return field (← opened)) :=
  reads_opened.bind fun _ => .pure _

theorem reads_textAndExpression (args : Args) : Reads (textAndExpression args) :=
  (reads_expression args).bind fun _ => (reads_element args).bind fun _ =>
    (reads_text _).bind fun _ => .pure _

theorem reads_valueOf (args : Args) : Reads (valueOf args) :=
  (reads_element args).bind fun _ => (reads_attribute _ _).bind fun _ => .pure _

/-- A check that compares what an argument says with what the session shows looks only. -/
theorem reads_comparison {α : Type} {seen : Drive α} (reads : Reads seen) (name : String)
    (condition : String → α → Bool) (complaint : String → α → String)
    : Reads (do
        let expected ← argument args name
        let value ← seen
        expect (condition expected value) (complaint expected value)) :=
  (reads_argument args name).bind fun _ => reads.bind fun _ => reads_expect _ _

theorem reads_expectContent : Reads (expectContent args) :=
  (reads_argument args "content").bind fun _ =>
    (reads_opened_field _).bind fun _ => reads_expect _ _

theorem reads_expectExists : Reads (expectExists args) :=
  (reads_element args).bind fun _ => .pure none

theorem reads_expectAbsent : Reads (expectAbsent args) := by
  refine ((reads_element args).bind fun _ => reads_expect _ _).tryCatch fun failure => ?_
  split
  · exact .pure none
  · exact .fail _

theorem reads_expectTitle : Reads (expectTitle args) :=
  reads_comparison (reads_opened_field _) _ _ _

theorem reads_expectUrl : Reads (expectUrl args) :=
  reads_comparison (reads_opened_field _) _ _ _

theorem reads_expectUrlContains : Reads (expectUrlContains args) :=
  reads_comparison (reads_opened_field _) _ _ _

theorem reads_expectMatches : Reads (expectMatches args) :=
  (reads_textAndExpression args).bind fun _ => reads_expect _ _

theorem reads_expectNotMatches : Reads (expectNotMatches args) :=
  (reads_textAndExpression args).bind fun _ => reads_expect _ _

theorem reads_expectValueMatches : Reads (expectValueMatches args) :=
  (reads_expression args).bind fun _ => (reads_valueOf args).bind fun _ => reads_expect _ _

theorem reads_expectValue : Reads (expectValue args) :=
  reads_comparison (reads_valueOf args) _ _ _

theorem reads_expectSelection (selected : Bool) : Reads (expectSelection selected args) :=
  (reads_element args).bind fun _ => (reads_isSelected _).bind fun _ => reads_expect _ _

theorem reads_expectRadio (selected : Bool) : Reads (expectRadio selected args) :=
  (reads_argument args "value").bind fun _ => (reads_find _).bind fun _ =>
    (reads_isSelected _).bind fun _ => reads_expect _ _

theorem reads_expectChoice : Reads (expectChoice args) := by
  refine (reads_argument args "value").bind fun value => (reads_element args).bind fun key =>
    (reads_choices key).bind fun choices => ?_
  split
  · exact .pure none
  · exact .fail _

theorem reads_expectChoiceSelected : Reads (expectChoiceSelected args) := by
  refine (reads_argument args "value").bind fun value => (reads_element args).bind fun key =>
    (reads_choices key).bind fun choices => ?_
  cases choices.find? fun choice => choice.value == value with
  | none => exact .fail _
  | some choice => exact reads_expect _ _

theorem reads_expectChoicesSelected : Reads (expectChoicesSelected args) := by
  refine (reads_items args).bind fun wanted => (reads_element args).bind fun key =>
    (reads_choices key).bind fun choices => ?_
  cases misselection? wanted choices with
  | none => exact .pure none
  | some complaint => exact .fail _

theorem reads_expectLink : Reads (expectLink args) :=
  (reads_argument args "url").bind fun _ => (reads_find _).bind fun _ => .pure none

theorem reads_expectLinkText : Reads (expectLinkText args) :=
  (reads_argument args "url").bind fun _ => (reads_argument args "text").bind fun _ =>
    (reads_find _).bind fun _ => (reads_text _).bind fun _ => reads_expect _ _

theorem reads_expectAlertText : Reads (expectAlertText args) :=
  reads_comparison reads_alertText _ _ _

theorem reads_expectNoAlert : Reads (expectNoAlert args) := by
  refine (reads_alertText.bind fun _ => reads_expect _ _).tryCatch fun failure => ?_
  split
  · exact .pure none
  · exact .fail _

-----------------------------------------------------------------------------------------
-- Repeated checks
-----------------------------------------------------------------------------------------

/-- Attempts that move along a reflexive and transitive relation move along it together, by
induction on their number.
-/
theorem attemptUpTo_moves {σ ε α : Type} (relation : σ → σ → Prop)
    (trans : ∀ {first second third}, relation first second → relation second third
      → relation first third)
    {attempt : σ → Except ε α × σ} (moves : ∀ state, relation state (attempt state).2)
    {elapsed : Nat → Nat} {timeout interval limit reading : Nat} {state : σ}
    {settled : Polling.Outcome σ ε α}
    (ended : Polling.attemptUpTo elapsed timeout interval attempt limit reading state
      = some settled)
    : relation state settled.state := by
  induction limit generalizing reading state settled with
  | zero => cases ended
  | succ limit ih =>
      have moved := moves state
      unfold Polling.attemptUpTo at ended
      split at ended
      next value next made =>
        cases ended
        simpa only [made] using moved
      next failure next made =>
        rw [made] at moved
        split at ended
        · cases ended
          exact moved
        · obtain ⟨later, settledLater, rfl⟩ := Option.map_eq_some_iff.mp ended
          have rest : relation next later.state := ih settledLater
          exact trans moved rest

theorem poll_moves {σ ε α : Type} (relation : σ → σ → Prop)
    (trans : ∀ {first second third}, relation first second → relation second third
      → relation first third)
    {attempt : σ → Except ε α × σ} (moves : ∀ state, relation state (attempt state).2)
    (clock : Clock) (timeout interval : Nat) (state : σ)
    : relation state (Polling.poll clock timeout interval attempt state).state := by
  have settled : (Polling.attemptUpTo clock.elapsed timeout interval attempt
      (clock.readingFor timeout + 1) 0 state).isSome :=
    Polling.attemptUpTo_isSome (by simpa using clock.reaches timeout)
  exact attemptUpTo_moves relation trans moves (Option.some_get settled).symm

theorem byCalls_insisting {handler : Handler} (works : handler.WorksByCalls)
    : (insisting handler).WorksByCalls := by
  intro args
  refine byCalls_bind (works args) fun answer => ?_
  split
  · exact (Reads.fail _).byCalls
  · exact (Reads.pure _).byCalls

/-- A repeated check makes the calls of all its attempts. -/
theorem byCalls_polling {timing : Timing} {check : Handler} (works : check.WorksByCalls)
    : (polling timing check).WorksByCalls := by
  intro args
  refine byCalls_bind (reads_seconds args).byCalls fun timeout => ?_
  exact poll_moves Session.ByCalls Session.ByCalls.trans (byCalls_insisting works args) _ _ _

-----------------------------------------------------------------------------------------
-- Actions
-----------------------------------------------------------------------------------------

theorem byCalls_navigate (url : String) : Moves Session.ByCalls (Drive.navigate url) :=
  byCalls_of_perform (show Call.navigate url ≠ .close by simp) rfl

theorem byCalls_click (key : String) : Moves Session.ByCalls (Drive.click key) :=
  byCalls_of_perform (show Call.click key ≠ .close by simp) rfl

theorem byCalls_typeText (key text : String)
    : Moves Session.ByCalls (Drive.typeText key text) :=
  byCalls_of_perform (show Call.typeText key text ≠ .close by simp) rfl

theorem byCalls_setChoice (key value : String) (selected : Bool)
    : Moves Session.ByCalls (Drive.setChoice key value selected) :=
  byCalls_of_perform (show Call.setChoice key value selected ≠ .close by simp) rfl

theorem byCalls_closeAlert : Moves Session.ByCalls Drive.closeAlert :=
  byCalls_of_perform (show Call.acceptAlert ≠ .close by simp) rfl

/-- What an action answers does not matter to the calls that it makes. -/
theorem byCalls_answer {drive : Drive Unit} (works : Moves Session.ByCalls drive)
    : Moves Session.ByCalls (do drive; return (none : Option Bool)) :=
  byCalls_bind works fun _ => (Reads.pure none).byCalls

theorem worksByCalls_load : load.WorksByCalls := fun args =>
  byCalls_bind (reads_argument args "url").byCalls fun url => byCalls_answer (byCalls_navigate url)

theorem worksByCalls_typeInto : typeInto.WorksByCalls := fun args =>
  byCalls_bind (reads_element args).byCalls fun target =>
    byCalls_bind (reads_argument args "keys").byCalls fun keys =>
      byCalls_answer (byCalls_typeText target keys)

theorem worksByCalls_click : click.WorksByCalls := fun args =>
  byCalls_bind (reads_element args).byCalls fun target => byCalls_answer (byCalls_click target)

theorem worksByCalls_followLink : followLink.WorksByCalls := by
  intro args
  refine byCalls_bind (reads_element args).byCalls fun link =>
    byCalls_bind (reads_attribute link "href").byCalls fun target => ?_
  cases target with
  | none => exact (Reads.fail _).byCalls
  | some url => exact byCalls_answer (byCalls_navigate url)

theorem worksByCalls_setSelected (selected : Bool) : (setSelected selected).WorksByCalls := by
  intro args
  refine byCalls_bind (reads_element args).byCalls fun target =>
    byCalls_bind (reads_isSelected target).byCalls fun actual => ?_
  split
  · exact byCalls_answer (byCalls_click target)
  · exact (Reads.pure none).byCalls

theorem byCalls_clearChoices (key : String) (choices : List Choice)
    : Moves Session.ByCalls (clearChoices key choices) := by
  induction choices with
  | nil => exact (Reads.pure ()).byCalls
  | cons choice rest ih => exact byCalls_bind (byCalls_setChoice _ _ _) fun _ => ih

theorem byCalls_selectItems (args : Args) (key : String) (choices : List Choice)
    (wanted : List String)
    : Moves Session.ByCalls (selectItems args key choices wanted) := by
  induction wanted with
  | nil => exact (Reads.pure ()).byCalls
  | cons item rest ih =>
      unfold selectItems
      cases denoted? choices item with
      | none => exact (Reads.fail _).byCalls
      | some choice => exact byCalls_bind (byCalls_setChoice _ _ _) fun _ => ih

theorem worksByCalls_selectMany : selectMany.WorksByCalls := fun args =>
  byCalls_bind (reads_items args).byCalls fun wanted =>
    byCalls_bind (reads_element args).byCalls fun key =>
      byCalls_bind (reads_choices key).byCalls fun choices =>
        byCalls_bind (byCalls_clearChoices key _) fun _ =>
          byCalls_answer (byCalls_selectItems args key choices wanted)

theorem worksByCalls_selectOne : selectOne.WorksByCalls := fun args =>
  byCalls_bind (reads_element args).byCalls fun key =>
    byCalls_bind (reads_argument args "value").byCalls fun value =>
      byCalls_answer (byCalls_setChoice key value true)

theorem worksByCalls_chooseRadio : chooseRadio.WorksByCalls := fun args =>
  byCalls_bind (reads_argument args "value").byCalls fun value =>
    byCalls_bind (reads_find (.radio value)).byCalls fun radio =>
      byCalls_answer (byCalls_click radio)

theorem worksByCalls_answerAlert : answerAlert.WorksByCalls := by
  intro args session
  have closing := byCalls_answer byCalls_closeAlert session
  unfold answerAlert
  rw [outcome_tryCatch]
  split
  next value after ended =>
    rw [ended] at closing
    exact closing
  next failure after ended =>
    rw [ended] at closing
    split
    · exact closing
    · exact closing

theorem worksByCalls_wait : wait.WorksByCalls := fun args =>
  ((reads_seconds args).bind fun _ => .pure none).byCalls

-----------------------------------------------------------------------------------------
-- The whole library
-----------------------------------------------------------------------------------------

/-- The checks that can be repeated look only, by cases on the form. -/
theorem reads_pollingDrafts {draft : Draft} (member : draft ∈ pollingDrafts) (args : Args)
    : Reads (draft.handler args) := by
  simp only [pollingDrafts, List.mem_cons, List.not_mem_nil, or_false] at member
  rcases member with rfl | rfl | rfl | rfl | rfl | rfl | rfl | rfl | rfl | rfl | rfl | rfl | rfl
  · exact reads_expectTitle
  · exact reads_expectUrl
  · exact reads_expectUrlContains
  · exact reads_expectAlertText
  · exact reads_expectContent
  · exact reads_expectExists
  · exact reads_expectAbsent
  · exact reads_expectValue
  · exact reads_expectValueMatches
  · exact reads_expectNotMatches
  · exact reads_expectMatches
  · exact reads_expectSelection false
  · exact reads_expectSelection true

/-- The expectations look only, by cases on the form. -/
theorem reads_expectationDrafts {draft : Draft} (member : draft ∈ expectationDrafts)
    (args : Args)
    : Reads (draft.handler args) := by
  simp only [expectationDrafts, List.mem_cons, List.not_mem_nil, or_false] at member
  rcases member with rfl | rfl | rfl | rfl | rfl | rfl | rfl | rfl | rfl | rfl | rfl | rfl | rfl
    | rfl | rfl | rfl | rfl | rfl | rfl | rfl | rfl | rfl
  · exact reads_expectTitle
  · exact reads_expectUrl
  · exact reads_expectUrlContains
  · exact reads_expectAlertText
  · exact @reads_expectNoAlert args
  · exact reads_expectLinkText
  · exact reads_expectLink
  · exact reads_expectChoice
  · exact reads_expectChoice
  · exact reads_expectRadio false
  · exact reads_expectRadio true
  · exact reads_expectChoiceSelected
  · exact reads_expectChoicesSelected
  · exact reads_expectContent
  · exact reads_expectExists
  · exact reads_expectExists
  · exact reads_expectValue
  · exact reads_expectValueMatches
  · exact reads_expectNotMatches
  · exact reads_expectMatches
  · exact reads_expectSelection false
  · exact reads_expectSelection true

/-- The actions work by calls, by cases on the form. -/
theorem worksByCalls_actionDrafts {draft : Draft} (member : draft ∈ actionDrafts)
    : draft.handler.WorksByCalls := by
  simp only [actionDrafts, List.mem_cons, List.not_mem_nil, or_false] at member
  rcases member with rfl | rfl | rfl | rfl | rfl | rfl | rfl | rfl | rfl | rfl | rfl | rfl
  · exact worksByCalls_answerAlert
  · exact worksByCalls_answerAlert
  · exact worksByCalls_load
  · exact worksByCalls_typeInto
  · exact worksByCalls_followLink
  · exact worksByCalls_selectMany
  · exact worksByCalls_selectOne
  · exact worksByCalls_chooseRadio
  · exact worksByCalls_setSelected false
  · exact worksByCalls_setSelected true
  · exact worksByCalls_click
  · exact worksByCalls_wait

/-- All built-in handlers work by calls. -/
theorem worksByCalls_drafts {timing : Timing} {draft : Draft} (member : draft ∈ drafts timing)
    : draft.handler.WorksByCalls := by
  simp only [drafts, List.mem_append, List.mem_map] at member
  rcases member with (⟨check, member, rfl⟩ | member) | member
  · exact byCalls_polling fun args => (reads_pollingDrafts member args).byCalls
  · exact fun args => (reads_expectationDrafts member args).byCalls
  · exact worksByCalls_actionDrafts member

/-- A registered form has the handler that it was registered with. -/
theorem register_worksByCalls {registry next : DirectiveRegistry} {source : String}
    {expected : Option FailureKind} {handler : Handler} (works : registry.WorksByCalls)
    (handlerWorks : handler.WorksByCalls)
    (registered : registry.register source expected handler = .ok next)
    : next.WorksByCalls := by
  unfold DirectiveRegistry.register DirectiveForm.ofText at registered
  split at registered
  next => cases registered
  next pattern _ =>
    split at registered
    · cases registered
    · cases registered
      intro form member
      rcases List.mem_append.mp member with earlier | last
      · exact works form earlier
      · exact List.mem_singleton.mp last ▸ handlerWorks

/-- The built-in library keeps a registry whose handlers all work by calls such. -/
theorem library_worksByCalls {timing : Timing} {registry next : DirectiveRegistry}
    (works : registry.WorksByCalls) (registered : register timing registry = .ok next)
    : next.WorksByCalls := by
  have keeps (some : List Draft) (known : ∀ draft ∈ some, draft.handler.WorksByCalls)
      {registry : DirectiveRegistry} (works : registry.WorksByCalls)
      (registered : some.foldlM (fun registry draft =>
        registry.register draft.source draft.expected draft.handler) registry = .ok next)
      : next.WorksByCalls := by
    induction some generalizing registry with
    | nil => cases registered; exact works
    | cons draft rest ih =>
        cases step : registry.register draft.source draft.expected draft.handler with
        | error refusal => simp [step, bind, Except.bind] at registered
        | ok middle =>
            refine ih (fun draft member => known draft (List.mem_cons_of_mem _ member)) ?_
              (by simpa [step, bind, Except.bind] using registered)
            exact register_worksByCalls works (known draft List.mem_cons_self) step
  exact keeps (drafts timing) (fun _ => worksByCalls_drafts) works registered

end Library

end Rehearsal
