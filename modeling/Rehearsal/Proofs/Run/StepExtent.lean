import Rehearsal.Proofs.Run.DirectiveOrder

/-! How far a step goes. Its directives are carried out one after another, each in the session that
the one before it has left, up to the first that fails for the set-up of the suite; any other
failure is recorded, and the step goes on.
-/

namespace Rehearsal

-----------------------------------------------------------------------------------------
-- Directives one after another
-----------------------------------------------------------------------------------------

/-- Carries out directives one after another in a scope, each in the session that the one before it
has left: what has become of them, and the session after the last.
-/
def DirectiveRegistry.dispatchAll (registry : DirectiveRegistry) (scope : Scope)
    : List String → Browser.Session → List Dispatched × Browser.Session
  | [], session => ([], session)
  | directive :: rest, session =>
      let (dispatched, next) := registry.dispatch scope directive session
      let (others, last) := registry.dispatchAll scope rest next
      (dispatched :: others, last)

namespace DirectiveRegistry

variable (registry : DirectiveRegistry) (scope : Scope)

theorem dispatchAll_append (directives others : List String) (session : Browser.Session)
    : registry.dispatchAll scope (directives ++ others) session
      = let (dispatched, middle) := registry.dispatchAll scope directives session
        let (later, last) := registry.dispatchAll scope others middle
        (dispatched ++ later, last) := by
  induction directives generalizing session with
  | nil => rfl
  | cons directive rest ih => simp only [List.cons_append, dispatchAll, ih]

/-- Every directive has a result under its own name, in order. -/
theorem names_dispatchAll (directives : List String) (session : Browser.Session)
    : (registry.dispatchAll scope directives session).1.map
        (fun dispatched => dispatched.result.name)
      = directives := by
  induction directives generalizing session with
  | nil => rfl
  | cons directive rest ih => simp only [dispatchAll, List.map_cons, ih, name_dispatch]

end DirectiveRegistry

-----------------------------------------------------------------------------------------
-- Failures that end a step
-----------------------------------------------------------------------------------------

/-- A result carries a failure of the suite's own set-up. -/
def Result.IsMisconfigured (result : Result) : Prop :=
  ∃ failure, result.error = some failure ∧ failure.isConfiguration = true

theorem Act.abortion?_eq_none_iff {result : Result}
    : abortion? result = none ↔ ¬ result.IsMisconfigured := by
  unfold abortion? Result.IsMisconfigured
  cases result.error with
  | none => simp
  | some failure => cases fatal : failure.isConfiguration <;> simp [fatal]

theorem Act.exists_of_abortion? {result : Result} {aborted : Failure}
    (ends : abortion? result = some aborted)
    : ∃ failure,
        result.error = some failure
        ∧ failure.isConfiguration = true
        ∧ aborted = .stepAborted result.name failure.message := by
  unfold abortion? at ends
  split at ends
  next failure failed =>
    split at ends
    next fatal => exact ⟨failure, failed, fatal, (Option.some.inj ends).symm⟩
    next => cases ends
  next => cases ends

/-- The results of a step's directives and the failure of the step that they come to, with the
directives that are not carried out: none if no directive fails for the set-up, and otherwise all
behind the first that does.
-/
inductive Step.Comes (results : List Result) : List String → Option Failure → Prop
  | through (fine : ∀ node ∈ results, ¬ node.IsMisconfigured) : Step.Comes results [] none
  | aborted {before : List Result} {node : Result} {failure : Failure} {skipped : List String}
    (upTo : results = before ++ [node]) (fine : ∀ earlier ∈ before, ¬ earlier.IsMisconfigured)
    (failed : node.error = some failure) (fatal : failure.isConfiguration = true)
    : Step.Comes results skipped (some (.stepAborted node.name failure.message))

/-- A directive that does not fail for the set-up may come first. -/
theorem Step.Comes.cons {results : List Result} {skipped : List String}
    {error : Option Failure} {node : Result} (fine : ¬ node.IsMisconfigured)
    (rest : Step.Comes results skipped error)
    : Step.Comes (node :: results) skipped error := by
  cases rest with
  | through others => exact .through (List.forall_mem_cons.mpr ⟨fine, others⟩)
  | aborted upTo others failed fatal =>
      subst upTo
      exact .aborted rfl (List.forall_mem_cons.mpr ⟨fine, others⟩) failed fatal

-----------------------------------------------------------------------------------------
-- Stages with directives between them
-----------------------------------------------------------------------------------------

/-- What has happened since an earlier stage. -/
def Stage.since (earlier later : Stage) : List Moment :=
  later.chronicle.drop earlier.chronicle.length

/-- Between two stages some directives, and no others, are carried out one after another in the
scope of the first, which is also that of the second.
-/
structure Stage.CarriesOut (before : Stage) (context : Context) (chain directives : List String)
    (dispatched : List Dispatched) (after : Stage)
    : Prop where
  session
    : context.directives.dispatchAll before.scope directives before.session
      = (dispatched, after.session)
  scope : after.scope = before.scope
  recorded
    : ∃ moments,
        after.chronicle = before.chronicle ++ moments
        ∧ dispatchesOf moments = dispatched.map (⟨chain, before.scope, ·⟩)

namespace Stage.CarriesOut

variable {context : Context} {chain directives others : List String}
  {dispatched later : List Dispatched}

theorem refl (stage : Stage) : stage.CarriesOut context chain [] [] stage :=
  ⟨rfl, rfl, [], (List.append_nil _).symm, rfl⟩

theorem trans {first second third : Stage}
    (left : first.CarriesOut context chain directives dispatched second)
    (right : second.CarriesOut context chain others later third)
    : first.CarriesOut context chain (directives ++ others) (dispatched ++ later) third where
  session := by
    have after := right.session
    rw [left.scope] at after
    rw [DirectiveRegistry.dispatchAll_append, left.session]
    simp only [after]
  scope := right.scope.trans left.scope
  recorded := by
    obtain ⟨moments, grown, here⟩ := left.recorded
    obtain ⟨more, grown', there⟩ := right.recorded
    refine ⟨moments ++ more, by rw [grown', grown, List.append_assoc], ?_⟩
    rw [dispatchesOf_append, here, there, left.scope, List.map_append]

theorem names {before after : Stage}
    (carriesOut : before.CarriesOut context chain directives dispatched after)
    : (dispatched.map Dispatched.result).map Result.name = directives := by
  have named := context.directives.names_dispatchAll before.scope directives before.session
  rw [carriesOut.session] at named
  rw [List.map_map]
  exact named

end Stage.CarriesOut

namespace Act

variable {context : Context} {chain : List String} {stage after : Stage}

/-- An announcement carries out no directive. -/
theorem carriesOut_announce {phases : List Phase} {event : Event}
    (ended : outcome (announce context phases event) stage = (.ok (), after))
    : stage.CarriesOut context chain [] [] after := by
  rw [outcome_announce] at ended
  obtain ⟨-, rfl⟩ := Prod.mk.inj ended
  exact ⟨rfl, rfl, _, rfl, dispatchesOf_noticed _⟩

theorem carriesOut_dispatch {directive : String} {result : Result}
    (ended : outcome (dispatch context chain directive) stage = (.ok result, after))
    : ∃ dispatched,
        stage.CarriesOut context chain [directive] [dispatched] after
        ∧ dispatched.result = result := by
  rw [outcome_dispatch] at ended
  cases ended
  refine ⟨_, ⟨rfl, rfl, _, List.append_assoc _ _ _, ?_⟩, rfl⟩
  rw [dispatchesOf_append, dispatchesOf_browsed, List.append_nil]
  rfl

theorem carriesOut_runDirective {directive : String} {result : Result}
    (ended : outcome (runDirective context chain directive) stage = (.ok result, after))
    : ∃ dispatched,
        stage.CarriesOut context chain [directive] [dispatched] after
        ∧ dispatched.result = result := by
  obtain ⟨_, begun, opened, ended⟩ := exists_of_outcome_bind ended
  obtain ⟨_, middle, carried, ended⟩ := exists_of_outcome_bind ended
  obtain ⟨_, _, closed, ended⟩ := exists_of_outcome_bind ended
  cases ended
  obtain ⟨dispatched, here, same⟩ := carriesOut_dispatch carried
  refine ⟨dispatched, ?_, same⟩
  exact ((carriesOut_announce opened).trans here).trans (carriesOut_announce closed)

/-- The directives that are carried out are the first of those given, by induction on these. -/
theorem carriesOut_runDirectives {directives : List String} {results : List Result}
    {error : Option Failure}
    (ended
      : outcome (runDirectives context chain directives) stage = (.ok (results, error), after))
    : ∃ ran skipped dispatched,
        directives = ran ++ skipped
        ∧ stage.CarriesOut context chain ran dispatched after
        ∧ results = dispatched.map Dispatched.result
        ∧ Step.Comes results skipped error := by
  induction directives generalizing stage results error with
  | nil =>
      cases ended
      exact ⟨[], [], [], rfl, .refl _, rfl, .through (by simp)⟩
  | cons directive rest ih =>
      obtain ⟨result, middle, first, ended⟩ := exists_of_outcome_bind ended
      obtain ⟨dispatched, carried, same⟩ := carriesOut_runDirective first
      cases ends : abortion? result with
      | some aborted =>
          rw [ends] at ended
          cases ended
          obtain ⟨failure, failed, fatal, rfl⟩ := exists_of_abortion? ends
          refine ⟨[directive], rest, [dispatched], rfl, carried, by simp [same], ?_⟩
          exact .aborted (List.nil_append _).symm (by simp) failed fatal
      | none =>
          rw [ends] at ended
          obtain ⟨⟨others, error'⟩, last, later, ended⟩ := exists_of_outcome_bind ended
          cases ended
          obtain ⟨ran, skipped, more, split, carried', same', comes⟩ := ih later
          refine ⟨directive :: ran, skipped, dispatched :: more, by rw [split]; rfl,
            carried.trans carried', by simp [same, same'], ?_⟩
          exact comes.cons (abortion?_eq_none_iff.mp ends)

theorem carriesOut_runStep {step : Step} {result : Result}
    (ended : outcome (runStep context chain step) stage = (.ok result, after))
    : ∃ ran skipped dispatched,
        step.directives = ran ++ skipped
        ∧ stage.CarriesOut context chain ran dispatched after
        ∧ result.name = step.name
        ∧ result.children = dispatched.map Dispatched.result
        ∧ Step.Comes result.children skipped result.error := by
  obtain ⟨_, begun, opened, ended⟩ := exists_of_outcome_bind ended
  obtain ⟨⟨children, error⟩, middle, carried, ended⟩ := exists_of_outcome_bind ended
  obtain ⟨_, _, closed, ended⟩ := exists_of_outcome_bind ended
  cases ended
  obtain ⟨ran, skipped, dispatched, split, here, same, comes⟩ := carriesOut_runDirectives carried
  refine ⟨ran, skipped, dispatched, split, ?_, rfl, same, comes⟩
  have whole := ((carriesOut_announce opened).trans here).trans (carriesOut_announce closed)
  simpa only [List.nil_append, List.append_nil] using whole

/-- A step ends well if none of the callbacks called in it refuses to go on. -/
theorem exists_result_of_silent {step : Step}
    (silent
      : ∀ notice ∈ noticesOf (stage.since (outcome (runStep context chain step) stage).2),
          context.refusal? notice = none)
    : ∃ result after, outcome (runStep context chain step) stage = (.ok result, after) := by
  obtain ⟨moments, grown, shown⟩ := ((abridges context).runStep chain step).showsRefusal stage
  rw [Stage.since, grown, List.drop_left] at silent
  cases ended : outcome (runStep context chain step) stage with
  | mk ending after =>
      cases ending with
      | ok result => exact ⟨result, after, rfl⟩
      | error refusal =>
          obtain ⟨notice, member, refuses⟩ := shown refusal (congrArg Prod.fst ended)
          cases (silent notice member).symm.trans refuses

/-- If none of the callbacks called in a step refuses to go on, the step ends in a node under its
name, whose children are the results of the directives that the step begins with, up to some place,
carried out one after another from the session and the scope that the step was given; nothing
else is carried out, and the session is the one that the last of them has left. They are all
directives of the step, and the node carries no failure, exactly if none of the results carries a
failure of the set-up. If one does, the last child is the first that does, and the failure of the
node names its directive and says what that failure says.
-/
theorem runStep_extent {step : Step}
    (silent
      : ∀ notice ∈ noticesOf (stage.since (outcome (runStep context chain step) stage).2),
          context.refusal? notice = none)
    : ∃ result after ran skipped dispatched,
        outcome (runStep context chain step) stage = (.ok result, after)
        ∧ step.directives = ran ++ skipped
        ∧ stage.CarriesOut context chain ran dispatched after
        ∧ result.name = step.name
        ∧ result.children = dispatched.map Dispatched.result
        ∧ result.children.map Result.name = ran
        ∧ ((skipped = [] ∧ result.error = none)
          ↔ ∀ node ∈ result.children, ¬ node.IsMisconfigured)
        ∧ ((∃ node ∈ result.children, node.IsMisconfigured)
          → ∃ before directive earlier node failure,
              ran = before ++ [directive]
              ∧ result.children = earlier ++ [node]
              ∧ (∀ other ∈ earlier, ¬ other.IsMisconfigured)
              ∧ node.error = some failure
              ∧ failure.isConfiguration = true
              ∧ result.error = some (.stepAborted directive failure.message)) := by
  obtain ⟨result, after, ended⟩ := exists_result_of_silent silent
  obtain ⟨ran, skipped, dispatched, split, carried, named, children, comes⟩ :=
    carriesOut_runStep ended
  have names : result.children.map Result.name = ran := by
    rw [children]
    exact carried.names
  refine ⟨result, after, ran, skipped, dispatched, ended, split, carried, named, children, names,
    ?_⟩
  generalize result.error = error at comes
  cases comes with
  | through fine =>
      refine ⟨⟨fun _ => fine, fun _ => ⟨rfl, rfl⟩⟩, ?_⟩
      rintro ⟨node, member, misconfigured⟩
      exact absurd misconfigured (fine node member)
  | @aborted earlier node failure _ upTo fine failed fatal =>
      have last : node ∈ result.children := by simp [upTo]
      constructor
      · constructor
        · rintro ⟨_, ⟨⟩⟩
        · intro none
          exact absurd ⟨failure, failed, fatal⟩ (none node last)
      · intro _
        refine ⟨earlier.map Result.name, node.name, earlier, node, failure, ?_, upTo, fine, failed,
          fatal, rfl⟩
        rw [← names, upTo, List.map_append]
        rfl

end Act

/-- A context in which every directive loads a page and is meant not to find an element, so that
none passes.
-/
def touringContext : Context where
  directives :=
    ⟨[{ pattern := ⟨"(?P<url>.+)", .capture "url" (.plus (.chars .all) true), ["url"]⟩
        handler := Library.load
        expected := some .elementNotFound }]⟩
  callbacks := Console.callbacks

/-- A step of three directives, the second of which names a variable. -/
def tour : Step where
  name := "tour"
  directives := ["home", "[nobody]", "away"]

/-- The first directive fails and the tour goes on; the variable is nowhere defined, which ends it
on the page of the first.
-/
theorem Act.tour_extent
    : let stage : Stage := { session := .launch ∅ }
      (∀ notice ∈ noticesOf (stage.since (outcome (runStep touringContext [] tour) stage).2),
        touringContext.refusal? notice = none)
      ∧ ∃ result after,
          outcome (runStep touringContext [] tour) stage = (.ok result, after)
          ∧ result.children.map Result.name = ["home", "[nobody]"]
          ∧ result.error
            = some (.stepAborted "[nobody]" "variable 'nobody' is not defined in any scope")
          ∧ after.session.url = "home" := by
  intro stage
  have silent
      : ∀ notice ∈ noticesOf (stage.since (outcome (runStep touringContext [] tour) stage).2),
          touringContext.refusal? notice = none := by
    have passes : touringContext.NeverRefuses := by
      simp [Context.NeverRefuses, touringContext, Console.callbacks]
    exact fun notice _ => passes.refusal?_eq_none notice
  obtain ⟨result, after, _, _, _, ended, _⟩ := runStep_extent silent
  have shown
      : let ran := outcome (runStep touringContext [] tour) stage
        ran.1.toOption.map (fun result => (result.children.map Result.name, result.error))
          = some
              (["home", "[nobody]"],
                some (.stepAborted "[nobody]" "variable 'nobody' is not defined in any scope"))
        ∧ ran.2.session.url = "home" := by
    decide +kernel
  rw [ended] at shown
  obtain ⟨values, url⟩ := shown
  obtain ⟨names, error⟩ := Prod.mk.inj (Option.some.inj values)
  exact ⟨silent, result, after, ended, names, error, url⟩

end Rehearsal
