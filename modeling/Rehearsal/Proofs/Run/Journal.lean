import Rehearsal.Proofs.Library.Calls
import Rehearsal.Proofs.Run.Composition

/-! The journals of a run's sessions and its chronicle tell the same: what the chronicle writes
down about the sessions of some environments is, entry by entry, what their journals hold.
-/

namespace Rehearsal

open Browser

/-- An entry that a moment tells of belongs to a given environment and is an inner one. -/
def Moment.Within (environment : String) : Moment → Prop
  | browsed written entry => written = environment ∧ entry.Inner
  | _ => True

theorem entriesOf_append (keep : String → Bool) (before after : List Moment)
    : entriesOf keep (before ++ after) = entriesOf keep before ++ entriesOf keep after :=
  List.filterMap_append

theorem entriesOf_browsed (keep : String → Bool) (environment : String) (entries : List Entry)
    : entriesOf keep (entries.map (.browsed environment))
      = if keep environment then entries else [] := by
  induction entries with
  | nil => simp [entriesOf]
  | cons entry rest ih =>
      simp only [entriesOf, List.map_cons, List.filterMap_cons] at ih ⊢
      cases kept : keep environment <;> simp_all

theorem entriesOf_noticed (keep : String → Bool) (notices : List Notice)
    : entriesOf keep (notices.map .noticed) = [] := by
  simp [entriesOf]

theorem noticesOf_append (before after : List Moment)
    : noticesOf (before ++ after) = noticesOf before ++ noticesOf after :=
  List.filterMap_append

theorem noticesOf_noticed (notices : List Notice)
    : noticesOf (notices.map .noticed) = notices := by
  simp [noticesOf, List.filterMap_map]

theorem noticesOf_browsed (environment : String) (entries : List Entry)
    : noticesOf (entries.map (.browsed environment)) = [] := by
  simp [noticesOf]

/-- What a session of one environment tells goes to the journals of that environment only. -/
theorem entriesOf_within {environment : String} {moments : List Moment}
    (within : ∀ moment ∈ moments, moment.Within environment) (keep : String → Bool)
    : entriesOf keep moments
      = if keep environment then entriesOf (fun _ => true) moments else [] := by
  induction moments with
  | nil => simp [entriesOf]
  | cons moment rest ih =>
      obtain ⟨head, tail⟩ := List.forall_mem_cons.mp within
      have rest := ih tail
      simp only [entriesOf, List.filterMap_cons] at rest ⊢
      cases moment with
      | browsed written entry =>
          obtain ⟨rfl, _⟩ := head
          cases kept : keep written <;> simp_all
      | _ => simpa using rest

/-- A session that has continued has written what its journal has gained since. -/
theorem Browser.Session.Continues.since {before after : Session}
    (continues : before.Continues after)
    : after.journal = before.journal ++ before.since after
      ∧ ∀ entry ∈ before.since after, entry.Inner := by
  obtain ⟨entries, grown, inner⟩ := continues.journal
  have gained : before.since after = entries := by
    rw [Session.since, grown, List.drop_left]
  exact ⟨gained ▸ grown, gained ▸ inner⟩

-----------------------------------------------------------------------------------------
-- Within one session
-----------------------------------------------------------------------------------------

/-- A later stage of the same session: the chronicle has grown by what the journal has gained
and by moments that are about no journal, and the session is as open as it was.
-/
structure Stage.Leads (before after : Stage) : Prop where
  environment : after.environment = before.environment
  closed : after.session.closed = before.session.closed
  chronicle
    : ∃ moments,
        after.chronicle = before.chronicle ++ moments
        ∧ (∀ moment ∈ moments, moment.Within before.environment)
        ∧ after.session.journal
          = before.session.journal ++ entriesOf (fun _ => true) moments

namespace Stage.Leads

/-- Moments that are about no journal lead on. -/
theorem of_quiet {before after : Stage} (environment : after.environment = before.environment)
    (session : after.session = before.session) {moments : List Moment}
    (chronicle : after.chronicle = before.chronicle ++ moments)
    (quiet : ∀ moment ∈ moments, ∀ environment entry, moment ≠ .browsed environment entry)
    : before.Leads after := by
  refine ⟨environment, by rw [session], moments, chronicle, ?_, ?_⟩
  · intro moment member
    have silent := quiet moment member
    cases moment with
    | browsed written entry => exact absurd rfl (silent written entry)
    | _ => trivial
  · have none : entriesOf (fun _ => true) moments = [] := by
      refine List.filterMap_eq_nil_iff.mpr fun moment member => ?_
      have silent := quiet moment member
      cases moment with
      | browsed written entry => exact absurd rfl (silent written entry)
      | _ => rfl
    rw [session, none, List.append_nil]

theorem refl (stage : Stage) : stage.Leads stage :=
  .of_quiet rfl rfl (List.append_nil _).symm (by simp)

theorem trans {first second third : Stage} (left : first.Leads second)
    (right : second.Leads third)
    : first.Leads third := by
  obtain ⟨moments, grown, within, journal⟩ := left.chronicle
  obtain ⟨more, grownMore, withinMore, journalMore⟩ := right.chronicle
  refine ⟨right.environment.trans left.environment, right.closed.trans left.closed,
    moments ++ more, ?_, ?_, ?_⟩
  · rw [grownMore, grown, List.append_assoc]
  · intro moment member
    rcases List.mem_append.mp member with earlier | later
    · exact within moment earlier
    · exact left.environment ▸ withinMore moment later
  · rw [journalMore, journal, entriesOf_append, List.append_assoc]

end Stage.Leads

/-- Carrying out a directive changes the session by calls only, if the handlers work by calls. -/
theorem DirectiveRegistry.dispatch_byCalls {registry : DirectiveRegistry}
    (works : registry.WorksByCalls) (scope : Scope) (directive : String) (session : Session)
    : session.ByCalls (registry.dispatch scope directive session).2 := by
  have known {directive : String} {place : Nat} {forms : List DirectiveForm}
      {resolved : Resolved} (found : resolveFrom directive place forms = some resolved)
      : resolved.form ∈ forms := by
    induction forms generalizing place with
    | nil => cases found
    | cons form rest ih =>
        unfold resolveFrom at found
        split at found
        · cases found
          exact List.mem_cons_self
        · exact List.mem_cons_of_mem _ (ih found)
  unfold DirectiveRegistry.dispatch
  split
  next => exact .refl session
  next resolved found =>
    split
    next => exact .refl session
    next args _ => exact works resolved.form (known found) args session

namespace Act

theorem outcome_announce (context : Context) (phases : List Phase) (event : Event)
    (stage : Stage)
    : outcome (announce context phases event) stage
      = (match (Callback.announce context.callbacks event phases).2 with
          | some refusal => .error refusal
          | none => .ok (),
        { stage with
          chronicle := stage.chronicle
            ++ (Callback.announce context.callbacks event phases).1.map .noticed }) := by
  change (match (Callback.announce context.callbacks event phases).2 with
    | some refusal => _
    | none => _) = _
  cases (Callback.announce context.callbacks event phases).2 <;> rfl

theorem outcome_dispatch (context : Context) (chain : List String) (directive : String)
    (stage : Stage)
    : outcome (dispatch context chain directive) stage
      = let (dispatched, session) :=
          context.directives.dispatch stage.scope directive stage.session
        (.ok dispatched.result,
          { stage with
            session
            chronicle := stage.chronicle ++ [.dispatched ⟨chain, stage.scope, dispatched⟩]
              ++ (stage.session.since session).map (.browsed stage.environment) }) :=
  rfl

/-- Every part within a session leads on, if the handlers work by calls. -/
theorem leads (context : Context) (works : context.directives.WorksByCalls)
    : Congruence context context fun act _ => Moves Stage.Leads act where
  pure value := fun stage => .refl stage
  bind first rest := Moves.bind .trans first rest
  announce phases event := by
    intro stage
    rw [outcome_announce]
    exact .of_quiet rfl rfl rfl (by simp)
  dispatch chain directive := by
    intro stage
    have continues := (DirectiveRegistry.dispatch_byCalls works stage.scope directive
      stage.session).continues
    obtain ⟨grown, inner⟩ := continues.since
    rw [outcome_dispatch]
    refine ⟨rfl, continues.closed, _, List.append_assoc _ _ _, ?_, ?_⟩
    · intro moment member
      rcases List.mem_append.mp member with first | later
      · exact List.mem_singleton.mp first ▸ trivial
      · obtain ⟨entry, written, rfl⟩ := List.mem_map.mp later
        exact ⟨rfl, inner entry written⟩
    · rw [entriesOf_append, entriesOf_browsed]
      simpa [entriesOf] using grown
  stepsBegin task := fun stage => .of_quiet rfl rfl rfl (by simp)
  stepsEnd task := fun stage => .of_quiet rfl rfl rfl (by simp)
  within frame moves := fun stage =>
    let inner := moves { stage with scope := stage.scope.push frame }
    ⟨inner.environment, inner.closed, inner.chronicle⟩
  putNode node := fun stage => .of_quiet rfl rfl (List.append_nil _).symm (by simp)

theorem leads_runTask {context : Context} (works : context.directives.WorksByCalls)
    (task : Task)
    : Moves Stage.Leads (runTask context task) :=
  (leads context works).runNested rfl [] task

end Act

-----------------------------------------------------------------------------------------
-- Sessions of a run
-----------------------------------------------------------------------------------------

/-- The stage at which a session begins. -/
def RunLog.stage (log : RunLog) (environment : String) (pages : Site) (scope : Scope) : Stage where
  session := .launch pages
  environment := Context.environmentKey environment
  scope
  chronicle := log.chronicle ++ [.browsed (Context.environmentKey environment) .launch]

@[simp]
theorem RunLog.chronicle_stage (log : RunLog) (environment : String) (pages : Site) (scope : Scope)
    : (log.stage environment pages scope).chronicle
      = log.chronicle ++ [.browsed (Context.environmentKey environment) .launch] :=
  rfl

/-- What comes of a session: the part within it runs from its stage, and the session is closed
however that ends.
-/
theorem Run.outcome_inSession_eq (act : Act Unit) (environment : String) (pages : Site)
    (scope : Scope) (log : RunLog)
    : outcome (inSession environment (.launch pages) scope act) log
      = let key := Context.environmentKey environment
        let ended := outcome act (log.stage environment pages scope)
        let closed := (Drive.close.on ended.2.session).2
        (ended.1.map fun _ => ended.2.nodes,
          { chronicle := ended.2.chronicle ++ (ended.2.session.since closed).map (.browsed key)
            sessions := log.sessions ++ [⟨key, closed.journal⟩] }) :=
  rfl

/-- A session adds to the log what happens in it between its launch and its close, and its
journal, which tells the same.
-/
theorem Run.outcome_inSession {act : Act Unit} (leads : Moves Stage.Leads act)
    (environment : String) (pages : Site) (scope : Scope) (log : RunLog)
    : let key := Context.environmentKey environment
      let after := (outcome act (log.stage environment pages scope)).2
      ∃ moments,
        after.chronicle = log.chronicle ++ [.browsed key .launch] ++ moments
        ∧ (∀ moment ∈ moments, moment.Within key)
        ∧ outcome (inSession environment (.launch pages) scope act) log
          = ((outcome act (log.stage environment pages scope)).1.map fun _ => after.nodes,
            { chronicle := after.chronicle ++ [.browsed key .close]
              sessions := log.sessions
                ++ [⟨key, .launch :: entriesOf (fun _ => true) moments ++ [.close]⟩] }) := by
  intro key after
  have led := leads (log.stage environment pages scope)
  obtain ⟨moments, grown, within, journal⟩ := led.chronicle
  have isOpen : after.session.closed = false := led.closed
  have closing : (Drive.close.on after.session).2
      = { after.session with closed := true, journal := after.session.journal ++ [.close] } :=
    congrArg Prod.snd (outcome_close isOpen)
  refine ⟨moments, grown, within, ?_⟩
  have gained : after.session.since (Drive.close.on after.session).2 = [.close] := by
    rw [closing, Session.since, List.drop_left]
  rw [outcome_inSession_eq]
  change (_, RunLog.mk
    (after.chronicle ++ (after.session.since (Drive.close.on after.session).2).map _)
    (log.sessions ++ [⟨key, (Drive.close.on after.session).2.journal⟩])) = _
  rw [gained, closing]
  have whole : after.session.journal = .launch :: entriesOf (fun _ => true) moments := journal
  simp only [whole, List.map_cons, List.map_nil, key, after]

/-- A later log of the same run: the journals that have come tell what the chronicle has gained. -/
def RunLog.Leads (before after : RunLog) : Prop :=
  ∃ moments sessions,
    after.chronicle = before.chronicle ++ moments
    ∧ after.sessions = before.sessions ++ sessions
    ∧ ∀ keep, journalOf keep sessions = entriesOf keep moments

namespace RunLog.Leads

theorem refl (log : RunLog) : log.Leads log :=
  ⟨[], [], by simp, by simp, fun _ => rfl⟩

theorem trans {first second third : RunLog} (left : first.Leads second)
    (right : second.Leads third)
    : first.Leads third := by
  obtain ⟨moments, sessions, grown, ended, same⟩ := left
  obtain ⟨more, others, grownMore, endedMore, sameMore⟩ := right
  refine ⟨moments ++ more, sessions ++ others, ?_, ?_, fun keep => ?_⟩
  · rw [grownMore, grown, List.append_assoc]
  · rw [endedMore, ended, List.append_assoc]
  · rw [entriesOf_append, ← same, ← sameMore]
    simp [journalOf]

end RunLog.Leads

namespace Run

theorem outcome_announce (context : Context) (phases : List Phase) (event : Event)
    (log : RunLog)
    : outcome (announce context phases event) log
      = (match (Callback.announce context.callbacks event phases).2 with
          | some refusal => .error refusal
          | none => .ok (),
        { log with
          chronicle := log.chronicle
            ++ (Callback.announce context.callbacks event phases).1.map .noticed }) := by
  change (match (Callback.announce context.callbacks event phases).2 with
    | some refusal => _
    | none => _) = _
  cases (Callback.announce context.callbacks event phases).2 <;> rfl

/-- Every part of a run leads on, if the handlers work by calls. -/
theorem leads (context : Context) (works : context.directives.WorksByCalls)
    : Congruence context context fun part _ => Moves RunLog.Leads part where
  pure value := fun log => .refl log
  bind first rest := Moves.bind .trans first rest
  announce phases event := by
    intro log
    rw [outcome_announce]
    exact ⟨_, [], rfl, by simp, fun keep => (entriesOf_noticed keep _).symm⟩
  inSession environment pages scope task := by
    intro log
    obtain ⟨moments, grown, within, ended⟩ :=
      outcome_inSession (Act.leads_runTask works task) environment pages scope log
    let key := Context.environmentKey environment
    rw [ended, grown]
    refine
      ⟨[.browsed key .launch] ++ moments ++ [.browsed key .close], _, by simp [key], rfl,
        fun keep => ?_⟩
    simp only [entriesOf_append, entriesOf_within within keep]
    cases kept : keep key <;> simp_all [journalOf, entriesOf, key]

/-- The journals of a run hold what its chronicle tells of them, whether or not a callback ends
the run.
-/
theorem journal_eq_entriesOf {context : Context} (works : context.directives.WorksByCalls)
    (plans : List Plan) (keep : String → Bool)
    : (ofPlans context plans).journal keep
      = entriesOf keep (ofPlans context plans).log.chronicle := by
  obtain ⟨moments, sessions, grown, ended, same⟩ := (leads context works).runAll rfl rfl plans {}
  rw [Run.journal, ofPlans_eq, grown, ended]
  simpa using same keep

end Run

end Rehearsal
