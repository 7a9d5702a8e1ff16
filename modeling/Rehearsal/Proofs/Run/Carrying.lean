import Rehearsal.Proofs.Run.Journal

/-! What the chronicle of a run says of directives is what has become of them. Each directive that
is written down has been carried out once, in the scope that is written down with it and in the
state of the session that the directives before it have left, and nothing else changes that state
between the launch of the session and its close.
-/

namespace Rehearsal

open Browser

/-- A directive that has been carried out, or could not be, gives a result under its own name. -/
theorem DirectiveRegistry.name_dispatch (registry : DirectiveRegistry) (scope : Scope)
    (directive : String) (session : Session)
    : (registry.dispatch scope directive session).1.result.name = directive := by
  unfold dispatch
  split
  · rfl
  · split <;> rfl

-----------------------------------------------------------------------------------------
-- Within one session
-----------------------------------------------------------------------------------------

/-- Moments that lead from one state of a session to another: every directive among them is carried
out where it stands, in its scope and in the state that has been reached, with what that has added
to the journal behind it, and the state is as it was at all other moments.
-/
inductive DirectiveRegistry.Carries (registry : DirectiveRegistry) (environment : String)
    : Session → List Moment → Session → Prop
  | nil {session} : registry.Carries environment session [] session
  | noticed {first last notice moments} (later : registry.Carries environment first moments last)
    : registry.Carries environment first (.noticed notice :: moments) last
  | stepsBegin {first last task moments} (later : registry.Carries environment first moments last)
    : registry.Carries environment first (.stepsBegin task :: moments) last
  | stepsEnd {first last task moments} (later : registry.Carries environment first moments last)
    : registry.Carries environment first (.stepsEnd task :: moments) last
  | dispatched {first next last moments} {record : DispatchRecord}
    (carriedOut
      : registry.dispatch record.scope record.dispatched.result.name first
        = (record.dispatched, next))
    (later : registry.Carries environment next moments last)
    : registry.Carries environment first
        (.dispatched record :: (first.since next).map (.browsed environment) ++ moments) last

namespace DirectiveRegistry.Carries

variable {registry : DirectiveRegistry} {environment : String} {first middle last : Session}
  {moments more : List Moment}

theorem of_notices (notices : List Notice)
    : registry.Carries environment first (notices.map .noticed) first := by
  induction notices with
  | nil => exact .nil
  | cons notice rest ih => exact .noticed ih

/-- Moments one after another lead from state to state, by induction on the first ones. -/
theorem append (carries : registry.Carries environment first moments middle)
    (carries' : registry.Carries environment middle more last)
    : registry.Carries environment first (moments ++ more) last := by
  induction carries with
  | nil => exact carries'
  | noticed _ ih => exact .noticed (ih carries')
  | stepsBegin _ ih => exact .stepsBegin (ih carries')
  | stepsEnd _ ih => exact .stepsEnd (ih carries')
  | dispatched carriedOut _ ih =>
      rw [List.append_assoc]
      exact .dispatched carriedOut (ih carries')

end DirectiveRegistry.Carries

/-- A later stage of the same session, which the moments in between lead to. -/
structure Stage.LeadsBy (registry : DirectiveRegistry) (before after : Stage) : Prop where
  environment : after.environment = before.environment
  chronicle
    : ∃ moments,
        after.chronicle = before.chronicle ++ moments
        ∧ registry.Carries before.environment before.session moments after.session

namespace Stage.LeadsBy

variable {registry : DirectiveRegistry}

theorem refl (stage : Stage) : stage.LeadsBy registry stage :=
  ⟨rfl, [], (List.append_nil _).symm, .nil⟩

theorem trans {first second third : Stage} (left : first.LeadsBy registry second)
    (right : second.LeadsBy registry third)
    : first.LeadsBy registry third := by
  obtain ⟨same, moments, grown, carries⟩ := left
  obtain ⟨same', more, grown', carries'⟩ := right
  rw [same] at carries'
  refine ⟨same'.trans same, moments ++ more, ?_, carries.append carries'⟩
  rw [grown', grown, List.append_assoc]

end Stage.LeadsBy

/-- Every part within a session leads on by the directives that it writes down. -/
theorem Act.leadsBy (context : Context)
    : Congruence context context fun act _ => Moves (Stage.LeadsBy context.directives) act where
  pure value := fun stage => .refl stage
  bind first rest := Moves.bind .trans first rest
  announce phases event := by
    intro stage
    rw [outcome_announce]
    exact ⟨rfl, _, rfl, .of_notices _⟩
  dispatch chain directive := by
    intro stage
    let ended := context.directives.dispatch stage.scope directive stage.session
    have named : ended.1.result.name = directive := context.directives.name_dispatch _ _ _
    have carriedOut
        : context.directives.dispatch stage.scope ended.1.result.name stage.session = ended := by
      rw [named]
    have carries
        : context.directives.Carries stage.environment stage.session
            (.dispatched ⟨chain, stage.scope, ended.1⟩
              :: (stage.session.since ended.2).map (.browsed stage.environment) ++ [])
            ended.2 :=
      .dispatched carriedOut .nil
    rw [List.append_nil] at carries
    rw [outcome_dispatch]
    exact ⟨rfl, _, List.append_assoc _ _ _, carries⟩
  stepsBegin task := fun _ => ⟨rfl, _, rfl, .stepsBegin .nil⟩
  stepsEnd task := fun _ => ⟨rfl, _, rfl, .stepsEnd .nil⟩
  within frame moves := fun stage =>
    let inner := moves { stage with scope := stage.scope.push frame }
    ⟨inner.environment, inner.chronicle⟩
  putNode node := fun stage => ⟨rfl, [], (List.append_nil _).symm, .nil⟩

-----------------------------------------------------------------------------------------
-- Sessions one after another
-----------------------------------------------------------------------------------------

/-- Moments of sessions in one environment, one after another, and the journals of these: each is
launched, led by its moments to some state, and closed in that state. Between the sessions callbacks
are called, and nothing else happens.
-/
inductive Context.Carries (context : Context) (environment : String)
    : List Moment → List SessionRecord → Prop
  | nil : context.Carries environment [] []
  | noticed {notice moments sessions} (later : context.Carries environment moments sessions)
    : context.Carries environment (.noticed notice :: moments) sessions
  | session {launched last closed : Session} {moments more sessions}
    (launch : context.launch environment = .ok launched)
    (carries
      : context.directives.Carries (environmentKey environment) launched moments last)
    (close : (Drive.close.on last).2 = closed)
    (later : context.Carries environment more sessions)
    : context.Carries environment
        (launched.journal.map (.browsed (environmentKey environment)) ++ moments
          ++ (last.since closed).map (.browsed (environmentKey environment)) ++ more)
        (⟨environmentKey environment, closed.journal⟩ :: sessions)

namespace Context.Carries

variable {context : Context} {environment : String} {moments more : List Moment}
  {sessions others : List SessionRecord}

theorem of_notices (notices : List Notice)
    : context.Carries environment (notices.map .noticed) [] := by
  induction notices with
  | nil => exact .nil
  | cons notice rest ih => exact .noticed ih

theorem append (carries : context.Carries environment moments sessions)
    (carries' : context.Carries environment more others)
    : context.Carries environment (moments ++ more) (sessions ++ others) := by
  induction carries with
  | nil => exact carries'
  | noticed _ ih => exact .noticed ih
  | session launch carries close _ ih =>
      rw [List.append_assoc]
      exact .session launch carries close ih

end Context.Carries

/-- A later log of the same run, with what sessions in one environment have added to it. -/
def RunLog.LeadsBy (context : Context) (environment : String) (before after : RunLog) : Prop :=
  ∃ moments sessions,
    after.chronicle = before.chronicle ++ moments
    ∧ after.sessions = before.sessions ++ sessions
    ∧ context.Carries environment moments sessions

namespace RunLog.LeadsBy

variable {context : Context} {environment : String}

theorem refl (log : RunLog) : log.LeadsBy context environment log :=
  ⟨[], [], (List.append_nil _).symm, (List.append_nil _).symm, .nil⟩

theorem trans {first second third : RunLog} (left : first.LeadsBy context environment second)
    (right : second.LeadsBy context environment third)
    : first.LeadsBy context environment third := by
  obtain ⟨moments, sessions, grown, ended, carries⟩ := left
  obtain ⟨more, others, grown', ended', carries'⟩ := right
  refine ⟨moments ++ more, sessions ++ others, ?_, ?_, carries.append carries'⟩
  · rw [grown', grown, List.append_assoc]
  · rw [ended', ended, List.append_assoc]

end RunLog.LeadsBy

namespace Run

variable (context : Context) (plan : Plan)

theorem leadsBy_announce (environment : String) (phases : List Phase) (event : Event)
    : Moves (RunLog.LeadsBy context environment) (announce context phases event) := by
  intro log
  rw [outcome_announce]
  exact ⟨_, [], rfl, (List.append_nil _).symm, .of_notices _⟩

/-- A task of a plan has a session of its own, if one can be launched. -/
theorem leadsBy_runTask (name : String)
    : Moves (RunLog.LeadsBy context plan.environment) (runTask context plan name) := by
  unfold runTask
  cases context.tasks.get? name with
  | none => exact .refl
  | some task =>
      cases launched : context.launch plan.environment with
      | error failure => exact .refl
      | ok session =>
          intro log
          obtain ⟨pages, rfl⟩ := Context.exists_site_of_launch launched
          have leads := (Act.leadsBy context).runNested rfl [] task
          obtain ⟨_, moments, grown, carries⟩ :=
            leads (log.stage plan.environment pages { outermost := plan.frame })
          have whole := Context.Carries.session launched carries rfl .nil
          rw [List.append_nil] at whole
          rw [outcome_inSession_eq]
          refine ⟨_, _, ?_, rfl, whole⟩
          simp only [Act.runTask, grown, log.chronicle_stage, List.append_assoc]
          rfl

theorem leadsBy_runTasks (names : List String)
    : Moves (RunLog.LeadsBy context plan.environment) (runTasks context plan names) := by
  induction names with
  | nil => exact .refl
  | cons name rest ih =>
      exact Moves.bind .trans (leadsBy_runTask context plan name) fun _ =>
        Moves.bind .trans ih fun _ => .refl

/-- What the run of a plan adds to the log, however it ends, comes of sessions in the environment of
the plan, led by the directives that are written down.
-/
theorem leadsBy_runPlan
    : Moves (RunLog.LeadsBy context plan.environment) (runPlan context plan) :=
  Moves.bind .trans (leadsBy_announce context _ _ _) fun _ =>
    Moves.bind .trans (leadsBy_runTasks context plan _) fun _ =>
      Moves.bind .trans (leadsBy_announce context _ _ _) fun _ => .refl

end Run

end Rehearsal
