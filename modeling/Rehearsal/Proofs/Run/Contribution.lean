import Rehearsal.Proofs.Run.Journal

/-! What the names in the order of a plan contribute to a run. A task begins in a session and in a
scope of its own, so that it does not matter what has happened before.
-/

namespace Rehearsal

/-- The callbacks of two contexts refuse to go on at the same announcements, and alike. -/
def Context.RefusesAs (first second : Context) : Prop :=
  ∀ event phases,
    (Callback.announce first.callbacks event phases).2
    = (Callback.announce second.callbacks event phases).2

-----------------------------------------------------------------------------------------
-- Within two sessions
-----------------------------------------------------------------------------------------

/-- Stages in equal sessions and scopes. What has happened before may differ. -/
structure Stage.Alike (first second : Stage) : Prop where
  session : second.session = first.session
  scope : second.scope = first.scope

namespace Act

variable {first second : Context} {α β : Type}

/-- Begun alike, two parts end alike, and have recorded the same results since. -/
def Alike (left right : Act α) : Prop :=
  ∀ stage other : Stage,
    stage.Alike other
    → (outcome right other).1 = (outcome left stage).1
      ∧ (outcome left stage).2.Alike (outcome right other).2
      ∧ ∃ nodes,
          (outcome left stage).2.nodes = stage.nodes ++ nodes
          ∧ (outcome right other).2.nodes = other.nodes ++ nodes

namespace Alike

theorem pure (value : α) : Alike (Pure.pure value) (Pure.pure value) :=
  fun _ _ alike => ⟨rfl, alike, [], (List.append_nil _).symm, (List.append_nil _).symm⟩

theorem bind {left right : Act α} {next other : α → Act β} (alike : Alike left right)
    (rest : ∀ value, Alike (next value) (other value))
    : Alike (left >>= next) (right >>= other) := by
  intro stage twin begun
  obtain ⟨ending, between, nodes, recorded, recorded'⟩ := alike stage twin begun
  rw [outcome_bind, outcome_bind]
  cases ended : outcome left stage with
  | mk result middle =>
      cases ended' : outcome right twin with
      | mk result' middle' =>
          rw [ended, ended'] at ending between
          rw [ended] at recorded
          rw [ended'] at recorded'
          cases ending
          cases result with
          | error refusal => exact ⟨rfl, between, nodes, recorded, recorded'⟩
          | ok value =>
              obtain ⟨ending, after, more, gained, gained'⟩ := rest value middle middle' between
              refine ⟨ending, after, nodes ++ more, ?_, ?_⟩
              · rw [gained, recorded, List.append_assoc]
              · rw [gained', recorded', List.append_assoc]

theorem note (moment : Moment) : Alike (Act.note moment) (Act.note moment) :=
  fun _ _ begun =>
    ⟨rfl, ⟨begun.session, begun.scope⟩, [], (List.append_nil _).symm, (List.append_nil _).symm⟩

end Alike

/-- Parts within sessions in two contexts that know the same directives and refuse alike. -/
theorem alike (directives : second.directives = first.directives)
    (refuses : first.RefusesAs second)
    : Congruence first second Alike where
  pure := .pure
  bind := .bind
  announce phases event := by
    intro stage other begun
    rw [outcome_announce, outcome_announce, refuses event phases]
    exact ⟨rfl, ⟨begun.session, begun.scope⟩, [], (List.append_nil _).symm,
      (List.append_nil _).symm⟩
  dispatch chain directive := by
    intro stage other begun
    rw [outcome_dispatch, outcome_dispatch, directives, begun.session, begun.scope]
    exact ⟨rfl, ⟨rfl, rfl⟩, [], (List.append_nil _).symm, (List.append_nil _).symm⟩
  stepsBegin task := .note (.stepsBegin task)
  stepsEnd task := .note (.stepsEnd task)
  within frame alike := by
    intro stage other begun
    obtain ⟨ending, after, recorded⟩ :=
      alike { stage with scope := stage.scope.push frame }
        { other with scope := other.scope.push frame }
        ⟨begun.session, congrArg (Scope.push · frame) begun.scope⟩
    rw [outcome_within, outcome_within]
    exact ⟨ending, ⟨after.session, congrArg Scope.leave after.scope⟩, recorded⟩
  putNode node := fun _ _ begun => ⟨rfl, ⟨begun.session, begun.scope⟩, [node], rfl, rfl⟩

end Act

-----------------------------------------------------------------------------------------
-- What a name comes to, and what that depends on
-----------------------------------------------------------------------------------------

/-- The results that a name in the order of a plan gives when it is run by itself. -/
def Context.nodesOf (context : Context) (plan : Plan) (name : String) : List Result :=
  (outcome (Run.runTask context plan name) {}).1.toOption.getD []

/-- The session of a name in the order of a plan when it is run by itself. -/
def Context.sessionOf? (context : Context) (plan : Plan) (name : String) : Option SessionRecord :=
  (outcome (Run.runTask context plan name) {}).2.sessions.head?

/-- The journal of a name in the order of a plan when it is run by itself. -/
def Context.journalOf? (context : Context) (plan : Plan) (name : String)
    : Option (List Browser.Entry) :=
  (context.sessionOf? plan name).map SessionRecord.entries

/-- The result of a plan when each name in its order gives what it gives by itself. -/
def Context.resultOf (context : Context) (plan : Plan) : Result where
  name := plan.name
  children := (Run.order context plan).flatMap (context.nodesOf plan)

/-- The sessions of a plan when each name in its order has the one that it has by itself. -/
def Context.sessionsOf (context : Context) (plan : Plan) : List SessionRecord :=
  (Run.order context plan).filterMap (context.sessionOf? plan)

/-- Two plans, each with its context, agree on all that a name depends on: the frame of the plan,
its environment or the lack of it, and the registered tasks that are reached from the name through
prerequisites.
-/
structure Context.AgreesOn (context : Context) (plan : Plan) (other : Context) (twin : Plan)
    (name : String)
    : Prop where
  frame : twin.frame = plan.frame
  environment
    : other.environments.get? (environmentKey twin.environment)
      = context.environments.get? (environmentKey plan.environment)
  /-- A lacking environment is recorded under the name that the plan has for it. -/
  unknown
    : context.environments.get? (environmentKey plan.environment) = none
      → twin.environment = plan.environment
  tasks
    : ∀ needed,
        Relation.ReflTransGen context.tasks.Requires name needed
        → other.tasks.get? needed = context.tasks.get? needed

theorem Context.AgreesOn.refl (context : Context) (plan : Plan) (name : String)
    : context.AgreesOn plan context plan name :=
  ⟨rfl, rfl, fun _ => rfl, fun _ _ => rfl⟩

theorem Context.AgreesOn.launch {context other : Context} {plan twin : Plan} {name : String}
    (agrees : context.AgreesOn plan other twin name)
    : other.launch twin.environment = context.launch plan.environment := by
  unfold Context.launch
  rw [agrees.environment]
  cases found : context.environments.get? (environmentKey plan.environment) with
  | none => simp only [agrees.unknown found]
  | some environment => rfl

namespace Run

variable {context other : Context} {plan twin : Plan}

/-- Whatever has happened before, two parts of runs give the same results, and add equal journals
to those of their environments, or none.
-/
def Alike (environment environment' : String) (left right : RunM (List Result)) : Prop :=
  ∀ log log',
    (outcome right log').1 = (outcome left log).1
    ∧ ∃ journal : Option (List Browser.Entry),
        (outcome left log).2.sessions
          = log.sessions ++ (journal.map (⟨Context.environmentKey environment, ·⟩)).toList
        ∧ (outcome right log').2.sessions
          = log'.sessions ++ (journal.map (⟨Context.environmentKey environment', ·⟩)).toList

theorem alike_pure (environment environment' : String) (nodes : List Result)
    : Alike environment environment' (pure nodes) (pure nodes) :=
  fun _ _ => ⟨rfl, none, (List.append_nil _).symm, (List.append_nil _).symm⟩

/-- Sessions in which parts run alike are alike. -/
theorem alike_inSession {left right : Act Unit} (alike : left.Alike right)
    (environment environment' : String) (pages : Browser.Site) (scope : Scope)
    : Alike environment environment' (inSession environment (.launch pages) scope left)
        (inSession environment' (.launch pages) scope right) := by
  intro log log'
  obtain ⟨ending, after, nodes, recorded, recorded'⟩ :=
    alike (log.stage environment pages scope) (log'.stage environment' pages scope) ⟨rfl, rfl⟩
  have same := recorded'.trans recorded.symm
  rw [outcome_inSession_eq, outcome_inSession_eq]
  refine ⟨?_, some _, rfl, ?_⟩
  · simp only [ending, same]
  · simp only [after.session, Option.map_some, Option.toList_some]

/-- Where all agrees that a name depends on, it is run alike. -/
theorem alike_runTask (directives : other.directives = context.directives)
    (refuses : context.RefusesAs other) {name : String}
    (agrees : context.AgreesOn plan other twin name)
    : Alike plan.environment twin.environment (runTask context plan name)
        (runTask other twin name) := by
  unfold runTask
  rw [agrees.tasks name .refl, agrees.launch, agrees.frame]
  cases found : context.tasks.get? name with
  | none => exact alike_pure _ _ _
  | some task =>
      cases launched : context.launch plan.environment with
      | error failure => exact alike_pure _ _ _
      | ok session =>
          obtain ⟨pages, rfl⟩ := Context.exists_site_of_launch launched
          refine alike_inSession ?_ _ _ _ _
          refine (Act.alike directives refuses).runNested_of_agree ?_
          intro needed member further path
          exact agrees.tasks further (.head ⟨task, found, member⟩ path)

/-- Wherever a name is run, it gives the results and has the session that it has by itself. -/
theorem gains_runTask (name : String)
    : Gains RunLog.sessions (runTask context plan name)
        (fun nodes => nodes = context.nodesOf plan name)
        (context.sessionOf? plan name).toList := by
  intro log nodes after ended
  -- The run from this log stands beside the run from an empty one.
  obtain ⟨ending, journal, gained, alone⟩ :=
    alike_runTask rfl (fun _ _ => rfl) (.refl context plan name) log {}
  rw [ended] at ending gained
  refine ⟨?_, ?_⟩
  · rw [Context.nodesOf, ending]
    rfl
  · rw [Context.sessionOf?, alone, gained]
    cases journal <;> rfl

theorem gains_runTasks (names : List String)
    : Gains RunLog.sessions (runTasks context plan names)
        (fun nodes => nodes = names.flatMap (context.nodesOf plan))
        (names.filterMap (context.sessionOf? plan)) := by
  induction names with
  | nil => exact .pure rfl
  | cons name rest ih =>
      have split : (name :: rest).filterMap (context.sessionOf? plan)
          = (context.sessionOf? plan name).toList ++ rest.filterMap (context.sessionOf? plan) := by
        rw [List.filterMap_cons]
        cases context.sessionOf? plan name <;> rfl
      rw [split]
      refine (gains_runTask name).bind fun nodes first => ?_
      refine ih.after fun others later => .pure ?_
      rw [List.flatMap_cons, first, later]

theorem gains_announce (phases : List Phase) (event : Event)
    : Gains RunLog.sessions (announce context phases event) (fun _ => True) [] :=
  .of_view fun log => by
    rw [outcome_announce]
    exact (List.append_nil _).symm

theorem gains_runPlan (plan : Plan)
    : Gains RunLog.sessions (runPlan context plan)
        (fun result => result = context.resultOf plan) (context.sessionsOf plan) := by
  refine (gains_announce _ _).before fun _ _ => ?_
  refine (gains_runTasks _).after fun children whole => ?_
  refine (gains_announce _ _).before fun _ _ => .pure ?_
  rw [whole, Context.resultOf]

theorem gains_runPlans (plans : List Plan)
    : Gains RunLog.sessions (runPlans context plans)
        (fun results => results = plans.map context.resultOf)
        (plans.flatMap context.sessionsOf) := by
  induction plans with
  | nil => exact .pure rfl
  | cons plan rest ih =>
      rw [List.flatMap_cons]
      refine (gains_runPlan plan).bind fun result first => ?_
      refine ih.after fun results later => .pure ?_
      rw [List.map_cons, first, later]

/-- A run that no callback ends is put together from what each name gives by itself. -/
theorem ofPlans_eq_contributions {plans : List Plan} {results : List Result}
    (ended : (ofPlans context plans).ending = .ok results)
    : results = plans.map context.resultOf
      ∧ (ofPlans context plans).log.sessions = plans.flatMap context.sessionsOf := by
  have gains
      : Gains RunLog.sessions (runAll context plans)
          (fun results => results = plans.map context.resultOf)
          (plans.flatMap context.sessionsOf) :=
    (gains_announce _ _).before fun _ _ =>
      (gains_runPlans plans).after fun _ whole =>
        (gains_announce _ _).before fun _ _ => .pure whole
  exact gains (Prod.ext ended rfl)

end Run

end Rehearsal
