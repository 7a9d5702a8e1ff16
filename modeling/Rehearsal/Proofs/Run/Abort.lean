import Rehearsal.Proofs.Run.Journal

/-! A callback that refuses to go on ends the run at once. Up to that moment the run is the one in
which no callback refuses; after it, only the session that is open is closed.
-/

namespace Rehearsal

open Browser

/-- The same callback, which never refuses to go on. -/
def Callback.calm (callback : Callback) : Callback :=
  { callback with refuse := fun _ => none }

/-- The same context, in which no callback refuses to go on. -/
def Context.calm (context : Context) : Context :=
  { context with callbacks := context.callbacks.map Callback.calm }

/-- The refusal with which the called callback answers, if it refuses to go on. -/
def Context.refusal? (context : Context) (notice : Notice) : Option Refusal := do
  let callback ← context.callbacks[notice.place]?
  let complaint ← callback.refuse notice.event
  return ⟨notice.event.entity, notice.phase, notice.event.name, complaint⟩

/-- The refusal at a moment; only the call of a callback can meet with one. -/
def Moment.refusal? (context : Context) : Moment → Option Refusal
  | noticed notice => context.refusal? notice
  | _ => none

-----------------------------------------------------------------------------------------
-- The moments up to the first refusal
-----------------------------------------------------------------------------------------

/-- The kept moments are the given ones up to the first at which a callback refuses to go on,
that moment included, or all of them if no callback does.
-/
inductive UpToRefusal (context : Context)
    : List Moment → List Moment → Option Refusal → Prop where
  | nil : UpToRefusal context [] [] none
  | refused {moment rest refusal} (refuses : moment.refusal? context = some refusal)
    : UpToRefusal context (moment :: rest) [moment] (some refusal)
  | passed {moment rest kept refusal} (passes : moment.refusal? context = none)
    (below : UpToRefusal context rest kept refusal)
    : UpToRefusal context (moment :: rest) (moment :: kept) refusal

namespace UpToRefusal

variable {context : Context} {moments kept : List Moment} {refusal : Option Refusal}

/-- Without a refusal all moments are kept. -/
theorem kept_eq (upTo : UpToRefusal context moments kept none) : kept = moments := by
  generalize ended : (none : Option Refusal) = refusal at upTo
  induction upTo with
  | nil => rfl
  | refused _ => cases ended
  | passed _ _ ih => rw [ih ended]

/-- Moments after a part without a refusal are cut on their own. -/
theorem append {later keptLater : List Moment} (first : UpToRefusal context moments kept none)
    (rest : UpToRefusal context later keptLater refusal)
    : UpToRefusal context (moments ++ later) (kept ++ keptLater) refusal := by
  generalize ended : (none : Option Refusal) = silent at first
  induction first with
  | nil => exact rest
  | refused _ => cases ended
  | passed passes _ ih => exact .passed passes (ih ended)

/-- Nothing is kept of what follows a part with a refusal. -/
theorem append_of_some {refused : Refusal} (later : List Moment)
    (first : UpToRefusal context moments kept (some refused))
    : UpToRefusal context (moments ++ later) kept (some refused) := by
  generalize ended : some refused = refusal at first ⊢
  induction first with
  | nil => cases ended
  | refused refuses => exact .refused refuses
  | passed passes _ ih => exact .passed passes (ih ended)

/-- Moments none of which meets with a refusal are all kept. -/
theorem of_silent (silent : ∀ moment ∈ moments, moment.refusal? context = none)
    : UpToRefusal context moments moments none := by
  induction moments with
  | nil => exact .nil
  | cons moment rest ih =>
      obtain ⟨passes, below⟩ := List.forall_mem_cons.mp silent
      exact .passed passes (ih below)

end UpToRefusal

-----------------------------------------------------------------------------------------
-- Announcements
-----------------------------------------------------------------------------------------

namespace Callback

variable {context : Context}

/-- The callbacks called in one phase are those of the calm context up to the first refusal, by
induction on the callbacks that are still to be asked.
-/
theorem announcePhase_upToRefusal (phase : Phase) (event : Event) {place : Nat}
    {callbacks : List Callback} (standing : context.callbacks.drop place = callbacks)
    : (announcePhase phase event place (callbacks.map calm)).2 = none
      ∧ UpToRefusal context
          ((announcePhase phase event place (callbacks.map calm)).1.map .noticed)
          ((announcePhase phase event place callbacks).1.map .noticed)
          (announcePhase phase event place callbacks).2 := by
  induction callbacks generalizing place with
  | nil => exact ⟨rfl, .nil⟩
  | cons callback rest ih =>
      have here : context.callbacks[place]? = some callback := by
        rw [← List.head?_drop, standing, List.head?_cons]
      have below : context.callbacks.drop (place + 1) = rest := by
        rw [← List.drop_drop, standing, List.drop_one, List.tail_cons]
      obtain ⟨calmly, upTo⟩ := ih below
      have hears : callback.calm.hears phase event = callback.hears phase event := rfl
      simp only [List.map_cons, announcePhase, hears]
      cases heard : callback.hears phase event with
      | false => exact ⟨calmly, upTo⟩
      | true =>
          cases refused : callback.refuse event with
          | none =>
              refine ⟨calmly, .passed ?_ upTo⟩
              simp [Moment.refusal?, Context.refusal?, here, refused]
          | some complaint =>
              refine ⟨calmly, .refused ?_⟩
              simp [Moment.refusal?, Context.refusal?, here, refused]

/-- The callbacks called in several phases are those of the calm context up to the first
refusal, by induction on the phases.
-/
theorem announce_upToRefusal (event : Event) (phases : List Phase)
    : (announce context.calm.callbacks event phases).2 = none
      ∧ UpToRefusal context ((announce context.calm.callbacks event phases).1.map .noticed)
          ((announce context.callbacks event phases).1.map .noticed)
          (announce context.callbacks event phases).2 := by
  induction phases with
  | nil => exact ⟨rfl, .nil⟩
  | cons phase rest ih =>
      obtain ⟨calmly, upTo⟩ := announcePhase_upToRefusal phase event
        (show context.callbacks.drop 0 = context.callbacks from List.drop_zero)
      obtain ⟨calmlyRest, upToRest⟩ := ih
      have calmPhase : announcePhase phase event 0 context.calm.callbacks
          = ((announcePhase phase event 0 context.calm.callbacks).1, none) :=
        Prod.ext rfl calmly
      simp only [announce]
      rw [calmPhase]
      refine ⟨calmlyRest, ?_⟩
      cases ended : announcePhase phase event 0 context.callbacks with
      | mk notices refusal =>
          rw [ended] at upTo
          cases refusal with
          | none =>
              simp only [List.map_append]
              exact upTo.append upToRest
          | some refusal =>
              simp only [List.map_append]
              exact upTo.append_of_some _

end Callback

-----------------------------------------------------------------------------------------
-- A part of a run beside its calm counterpart
-----------------------------------------------------------------------------------------

/-- The calm part ends well, and the other part is the same up to the first refusal: it ends as
the calm one if there is none, and otherwise with that refusal, after which only `closing`
follows. What the calm part leaves behind has no bearing on what is to be closed later.
-/
def Abridges {σ α : Type} (context : Context) (chronicle : σ → List Moment)
    (closing : List Moment → List Moment) (part calm : ExceptT Refusal (StateM σ) α)
    : Prop :=
  ∀ state, ∃ value after moments kept refusal,
    outcome calm state = (.ok value, after)
    ∧ chronicle after = chronicle state ++ moments
    ∧ (∀ later, closing (moments ++ later) = closing later)
    ∧ UpToRefusal context moments kept refusal
    ∧ match refusal with
      | none => outcome part state = (.ok value, after)
      | some refusal =>
          ∃ stopped,
            outcome part state = (.error refusal, stopped)
            ∧ chronicle stopped = chronicle state ++ kept ++ closing kept

namespace Abridges

variable {σ α β : Type} {context : Context} {chronicle : σ → List Moment}
  {closing : List Moment → List Moment}

/-- A part that calls no callback abridges itself. -/
theorem of_silent {part : ExceptT Refusal (StateM σ) α}
    (ends
      : ∀ state, ∃ value after moments,
          outcome part state = (.ok value, after)
          ∧ chronicle after = chronicle state ++ moments
          ∧ (∀ later, closing (moments ++ later) = closing later)
          ∧ ∀ moment ∈ moments, moment.refusal? context = none)
    : Abridges context chronicle closing part part := by
  intro state
  obtain ⟨value, after, moments, ended, grown, closes, silent⟩ := ends state
  exact ⟨value, after, moments, moments, none, ended, grown, closes, .of_silent silent, ended⟩

theorem pure (value : α)
    : Abridges context chronicle closing (Pure.pure value) (Pure.pure value) :=
  of_silent fun state => ⟨value, state, [], rfl, by simp, fun _ => rfl, by simp⟩

/-- A sequence is abridged in its first part or, if that meets with no refusal, in its second. -/
theorem bind {part calm : ExceptT Refusal (StateM σ) α}
    {next calmNext : α → ExceptT Refusal (StateM σ) β}
    (first : Abridges context chronicle closing part calm)
    (rest : ∀ value, Abridges context chronicle closing (next value) (calmNext value))
    : Abridges context chronicle closing (part >>= next) (calm >>= calmNext) := by
  intro state
  obtain ⟨value, middle, moments, kept, refusal, calmly, grown, closes, upTo, ended⟩ := first state
  obtain ⟨value', after, more, keptMore, refusal', calmly', grown', closes', upTo', ended'⟩ :=
    rest value middle
  have whole : chronicle after = chronicle state ++ (moments ++ more) := by
    rw [grown', grown, List.append_assoc]
  have closesBoth (later : List Moment) : closing (moments ++ more ++ later) = closing later := by
    rw [List.append_assoc, closes, closes']
  rw [outcome_bind_of_ok calmly]
  cases refusal with
  | some refusal =>
      obtain ⟨stopped, refused, short⟩ := ended
      exact ⟨value', after, _, kept, some refusal, calmly', whole, closesBoth,
        upTo.append_of_some more, stopped, outcome_bind_of_error refused, short⟩
  | none =>
      cases upTo.kept_eq
      refine ⟨value', after, _, _, refusal', calmly', whole, closesBoth, upTo.append upTo', ?_⟩
      rw [outcome_bind_of_ok ended]
      cases refusal' with
      | none => exact ended'
      | some refusal =>
          obtain ⟨stopped, refused, short⟩ := ended'
          refine ⟨stopped, refused, ?_⟩
          rw [short, grown, closes]
          simp only [List.append_assoc]

end Abridges

/-- Within a session nothing is closed. -/
abbrev Act.Abridges {α : Type} (context : Context) : Act α → Act α → Prop :=
  Rehearsal.Abridges context Stage.chronicle fun _ => []

/-- What happens within a session is abridged, by its parts. -/
theorem Act.abridges (context : Context)
    : Act.Congruence context context.calm fun act calm => Act.Abridges context act calm where
  pure value := .pure value
  bind first rest := .bind first rest
  announce phases event := by
    intro stage
    obtain ⟨calmly, upTo⟩ := Callback.announce_upToRefusal event phases
    refine ⟨(), _, _, _, _, by rw [outcome_announce, calmly], rfl, fun _ => rfl, upTo, ?_⟩
    rw [outcome_announce]
    cases ended : Callback.announce context.callbacks event phases with
    | mk notices refusal =>
        rw [ended] at upTo
        cases refusal with
        | none => simp [upTo.kept_eq]
        | some refusal => exact ⟨_, rfl, by simp⟩
  dispatch chain directive := by
    refine .of_silent fun stage => ?_
    rw [outcome_dispatch]
    refine ⟨_, _, _, rfl, List.append_assoc _ _ _, fun _ => rfl, ?_⟩
    intro moment member
    rcases List.mem_append.mp member with first | later
    · exact List.mem_singleton.mp first ▸ rfl
    · obtain ⟨entry, _, rfl⟩ := List.mem_map.mp later
      rfl
  stepsBegin task :=
    .of_silent fun _ =>
      ⟨(), _, [.stepsBegin task], rfl, rfl, fun _ => rfl, by simp [Moment.refusal?]⟩
  stepsEnd task :=
    .of_silent fun _ =>
      ⟨(), _, [.stepsEnd task], rfl, rfl, fun _ => rfl, by simp [Moment.refusal?]⟩
  within frame related := by
    intro stage
    obtain ⟨value, after, moments, kept, refusal, calmly, grown, closes, upTo, ended⟩ :=
      related { stage with scope := stage.scope.push frame }
    refine ⟨value, { after with scope := after.scope.leave }, moments, kept, refusal, ?_, grown,
      closes, upTo, ?_⟩
    · rw [outcome_within, calmly]
    · rw [outcome_within]
      cases refusal with
      | none => rw [ended]
      | some refusal =>
          obtain ⟨stopped, refused, short⟩ := ended
          exact ⟨{ stopped with scope := stopped.scope.leave }, by rw [refused], short⟩
  putNode node :=
    .of_silent fun stage =>
      ⟨(), _, [], rfl, (List.append_nil stage.chronicle).symm, fun _ => rfl, by simp⟩

-----------------------------------------------------------------------------------------
-- The session that is open at a moment
-----------------------------------------------------------------------------------------

/-- The environment of the session that is open after a moment. -/
def Moment.openAfter (current : Option String) : Moment → Option String
  | browsed environment .launch => some environment
  | browsed _ .close => none
  | _ => current

/-- The environment of the session that is open after some moments of a run. -/
def openSession (moments : List Moment) : Option String :=
  moments.foldl Moment.openAfter none

/-- The moments in which the session that is open after others is closed. -/
def closingOf (moments : List Moment) : List Moment :=
  (openSession moments).toList.map fun environment => .browsed environment .close

/-- Moments that leave no session open have no bearing on what is closed later. -/
theorem closingOf_append {moments : List Moment} (shut : openSession moments = none)
    (later : List Moment)
    : closingOf (moments ++ later) = closingOf later := by
  unfold openSession at shut
  simp only [closingOf, openSession, List.foldl_append, shut]

/-- Within a session the same session stays open, by induction on the moments. -/
theorem openAfter_within {environment : String} {moments : List Moment}
    (within : ∀ moment ∈ moments, moment.Within environment) (current : Option String)
    : moments.foldl Moment.openAfter current = current := by
  induction moments with
  | nil => rfl
  | cons moment rest ih =>
      obtain ⟨head, tail⟩ := List.forall_mem_cons.mp within
      have stays : moment.openAfter current = current := by
        unfold Moment.openAfter
        split
        · exact absurd rfl head.2.1
        · exact absurd rfl head.2.2
        · rfl
      rw [List.foldl_cons, stays, ih tail]

theorem openAfter_noticed (notices : List Notice) (current : Option String)
    : (notices.map Moment.noticed).foldl Moment.openAfter current = current := by
  induction notices with
  | nil => rfl
  | cons notice rest ih => exact ih

namespace Run

/-- A part of a run is abridged, and the session that is open at the refusal is closed. -/
abbrev Abridges {α : Type} (context : Context) : RunM α → RunM α → Prop :=
  Rehearsal.Abridges context RunLog.chronicle closingOf

/-- A session is abridged: a refusal within it is followed by its close. -/
theorem abridges_inSession {context : Context} {act calm : Act Unit}
    (abridges : Act.Abridges context act calm) (leads : Moves Stage.Leads act)
    (leadsCalm : Moves Stage.Leads calm) (environment : String) (pages : Site) (scope : Scope)
    : Run.Abridges context (inSession environment (.launch pages) scope act)
        (inSession environment (.launch pages) scope calm) := by
  intro log
  let key := Context.environmentKey environment
  let launched : Moment := .browsed key .launch
  let closed : Moment := .browsed key .close
  obtain ⟨value, after, moments, kept, refusal, calmly, grown, _, upTo, ended⟩ :=
    abridges (log.stage environment pages scope)
  obtain ⟨inner, chronicle, within, session⟩ :=
    outcome_inSession leadsCalm environment pages scope log
  obtain ⟨innerReal, chronicleReal, withinReal, sessionReal⟩ :=
    outcome_inSession leads environment pages scope log
  rw [calmly] at chronicle session
  cases List.append_cancel_left (chronicle.symm.trans grown)
  have whole
      : after.chronicle ++ [closed] = log.chronicle ++ ([launched] ++ moments ++ [closed]) := by
    simp [grown, key, launched]
  have start : UpToRefusal context [launched] [launched] none :=
    .of_silent (by simp [launched, Moment.refusal?])
  have shut : openSession ([launched] ++ moments ++ [closed]) = none := by
    simp [openSession, launched, closed, Moment.openAfter]
  cases refusal with
  | none =>
      cases upTo.kept_eq
      have stop : UpToRefusal context [closed] [closed] none :=
        .of_silent (by simp [closed, Moment.refusal?])
      rw [ended] at chronicleReal sessionReal
      cases List.append_cancel_left (chronicleReal.symm.trans grown)
      exact ⟨_, _, _, _, none, session, whole, closingOf_append shut,
        (start.append upTo).append stop, sessionReal⟩
  | some refusal =>
      obtain ⟨stopped, refused, short⟩ := ended
      rw [refused] at chronicleReal sessionReal
      cases List.append_cancel_left (chronicleReal.symm.trans (short.trans (List.append_nil _)))
      have open_ : closingOf ([launched] ++ kept) = [closed] := by
        have stays := openAfter_within withinReal (some key)
        simp only [closingOf, openSession, List.foldl_append]
        simp [launched, Moment.openAfter, stays, closed]
      refine ⟨_, _, _, [launched] ++ kept, some refusal, session, whole, closingOf_append shut,
        (start.append upTo).append_of_some _, _, sessionReal, ?_⟩
      rw [open_, ← List.append_assoc]
      exact congrArg (· ++ [closed]) chronicleReal

/-- A whole run is abridged, by its parts. -/
theorem abridges {context : Context} (works : context.directives.WorksByCalls)
    : Congruence context context.calm fun part calm => Run.Abridges context part calm where
  pure value := .pure value
  bind first rest := .bind first rest
  announce phases event := by
    intro log
    obtain ⟨calmly, upTo⟩ := Callback.announce_upToRefusal event phases
    refine ⟨(), _, _, _, _, by rw [outcome_announce, calmly], rfl,
      closingOf_append (openAfter_noticed _ _), upTo, ?_⟩
    rw [outcome_announce]
    cases ended : Callback.announce context.callbacks event phases with
    | mk notices refusal =>
        rw [ended] at upTo
        cases refusal with
        | none => simp [upTo.kept_eq]
        | some refusal =>
            exact ⟨_, rfl, by simp [closingOf, openSession, openAfter_noticed]⟩
  inSession environment pages scope task :=
    have calmWorks : context.calm.directives.WorksByCalls := works
    abridges_inSession ((Act.abridges context).runNested rfl [] task)
      (Act.leads_runTask works task) (Act.leads_runTask calmWorks task) environment pages scope

-----------------------------------------------------------------------------------------
-- The first refusal ends the run
-----------------------------------------------------------------------------------------

/-- The chronicle of a run beside that of the calm run. -/
theorem chronicle_upToRefusal {context : Context} (works : context.directives.WorksByCalls)
    (plans : List Plan)
    : let calm := ofPlans context.calm plans
      let run := ofPlans context plans
      ∃ results kept refusal,
        calm.ending = .ok results
        ∧ UpToRefusal context calm.log.chronicle kept refusal
        ∧ match refusal with
          | none => run = calm
          | some refusal =>
              run.ending = .error refusal ∧ run.log.chronicle = kept ++ closingOf kept := by
  intro calm run
  obtain ⟨results, after, moments, kept, refusal, calmly, grown, _, upTo, ended⟩ :=
    (abridges works).runAll rfl rfl plans {}
  have chronicle : after.chronicle = moments := grown
  subst chronicle
  have calmRun : calm = ⟨.ok results, after⟩ := by
    simp only [calm, ofPlans_eq, calmly]
  refine ⟨results, kept, refusal, by rw [calmRun], by rw [calmRun]; exact upTo, ?_⟩
  cases refusal with
  | none => simp only [run, calmRun, ofPlans_eq, ended]
  | some refusal =>
      obtain ⟨stopped, refused, short⟩ := ended
      simp only [run, ofPlans_eq, refused]
      exact ⟨trivial, short⟩

end Run

/-- Moments are cut behind the call of a callback, if they are cut at all. -/
theorem UpToRefusal.exists_notice {context : Context} {moments kept : List Moment}
    {refusal : Refusal} (upTo : UpToRefusal context moments kept (some refusal))
    : ∃ before notice after,
        moments = before ++ .noticed notice :: after
        ∧ kept = before ++ [.noticed notice]
        ∧ (∀ earlier ∈ noticesOf before, context.refusal? earlier = none)
        ∧ context.refusal? notice = some refusal := by
  generalize ended : some refusal = refused at upTo
  induction upTo with
  | nil => cases ended
  | @refused moment rest _ refuses =>
      cases ended
      cases moment with
      | noticed notice => exact ⟨[], notice, rest, rfl, rfl, by simp [noticesOf], refuses⟩
      | _ => cases refuses
  | @passed moment rest kept _ passes _ ih =>
      obtain ⟨before, notice, after, rfl, rfl, silent, refuses⟩ := ih ended
      refine ⟨moment :: before, notice, after, rfl, rfl, ?_, refuses⟩
      intro earlier member
      obtain ⟨other, inside, same⟩ := List.mem_filterMap.mp member
      rcases List.mem_cons.mp inside with rfl | below
      · split at same
        · exact Option.some.inj same ▸ passes
        · cases same
      · exact silent earlier (List.mem_filterMap.mpr ⟨other, below, same⟩)

/-- Moments that are not cut hold no call of a callback that refuses to go on. -/
theorem UpToRefusal.notices_pass {context : Context} {moments kept : List Moment}
    {refusal : Option Refusal} (upTo : UpToRefusal context moments kept refusal)
    (ended : refusal = none)
    : ∀ notice ∈ noticesOf moments, context.refusal? notice = none := by
  induction upTo with
  | nil => simp [noticesOf]
  | refused _ => cases ended
  | @passed moment rest _ _ passes _ ih =>
      intro notice member
      obtain ⟨other, inside, same⟩ := List.mem_filterMap.mp member
      rcases List.mem_cons.mp inside with rfl | below
      · split at same
        · cases same
          exact passes
        · cases same
      · exact ih ended notice (List.mem_filterMap.mpr ⟨other, below, same⟩)

/-- A part of a run that ends with a refusal has called the callback that refuses to go on. -/
def ShowsRefusal {σ α : Type} (context : Context) (chronicle : σ → List Moment)
    (part : ExceptT Refusal (StateM σ) α)
    : Prop :=
  ∀ state, ∃ moments,
    chronicle (outcome part state).2 = chronicle state ++ moments
    ∧ ∀ refusal,
        (outcome part state).1 = .error refusal
        → ∃ notice ∈ noticesOf moments, context.refusal? notice = some refusal

/-- A part that is abridged, with nothing to close, shows the refusal that it ends with. -/
theorem Abridges.showsRefusal {σ α : Type} {context : Context} {chronicle : σ → List Moment}
    {part calm : ExceptT Refusal (StateM σ) α}
    (abridges : Abridges context chronicle (fun _ => []) part calm)
    : ShowsRefusal context chronicle part := by
  intro state
  obtain ⟨_, after, moments, kept, refusal, _, grown, _, upTo, ended⟩ := abridges state
  cases refusal with
  | none =>
      rw [ended]
      exact ⟨moments, grown, nofun⟩
  | some refusal =>
      obtain ⟨stopped, refused, short⟩ := ended
      obtain ⟨before, notice, _, _, rfl, _, refuses⟩ := upTo.exists_notice
      rw [refused]
      refine ⟨_, short.trans (List.append_nil _), ?_⟩
      rintro _ ⟨⟩
      exact ⟨notice, by simp [noticesOf], refuses⟩

namespace Run

/-- Every part of a run shows the refusal that it ends with. -/
theorem showsRefusal (context : Context)
    : Congruence context context fun part _ => ShowsRefusal context RunLog.chronicle part where
  pure value := fun log => ⟨[], (List.append_nil _).symm, nofun⟩
  bind first rest := by
    intro log
    obtain ⟨moments, grown, shown⟩ := first log
    rw [outcome_bind]
    split
    next value middle ended =>
      obtain ⟨more, grown', shown'⟩ := rest value middle
      rw [ended] at grown
      refine ⟨moments ++ more, by rw [grown', grown, List.append_assoc], fun refusal refused => ?_⟩
      obtain ⟨notice, member, refuses⟩ := shown' refusal refused
      refine ⟨notice, ?_, refuses⟩
      rw [noticesOf_append]
      exact List.mem_append_right _ member
    next error middle ended =>
      rw [ended] at grown shown
      refine ⟨moments, grown, fun refusal refused => shown refusal ?_⟩
      exact congrArg Except.error (Except.error.inj refused)
  announce phases event := by
    intro log
    obtain ⟨_, upTo⟩
        : _ ∧ UpToRefusal context _ _ (Callback.announce context.callbacks event phases).2 :=
      Callback.announce_upToRefusal event phases
    rw [outcome_announce]
    refine ⟨_, rfl, fun refusal refused => ?_⟩
    cases ended : (Callback.announce context.callbacks event phases).2 with
    | none => simp [ended] at refused
    | some other =>
        rw [ended] at upTo refused
        cases refused
        obtain ⟨before, notice, _, _, kept, _, refuses⟩ := upTo.exists_notice
        exact ⟨notice, by simp [kept, noticesOf], refuses⟩
  inSession environment pages scope task := by
    intro log
    obtain ⟨moments, grown, shown⟩ :=
      ((Act.abridges context).runNested rfl [] task).showsRefusal
        (log.stage environment pages scope)
    rw [outcome_inSession_eq]
    simp only [Act.runTask, grown, log.chronicle_stage, List.append_assoc]
    refine ⟨_, rfl, fun refusal refused => ?_⟩
    let stage := log.stage environment pages scope
    cases ended : (outcome (Act.runNested context [] task) stage).1 with
    | ok _ =>
        rw [ended] at refused
        cases refused
    | error other =>
        rw [ended] at refused
        cases refused
        obtain ⟨notice, member, refuses⟩ := shown _ ended
        refine ⟨notice, ?_, refuses⟩
        rw [noticesOf_append, noticesOf_append]
        exact List.mem_append_right _ (List.mem_append_left _ member)

/-- A run ends well if none of the callbacks called in it refuses to go on. -/
theorem exists_results_of_silent {context : Context} {plans : List Plan}
    (silent : ∀ notice ∈ (ofPlans context plans).notices, context.refusal? notice = none)
    : ∃ results, (ofPlans context plans).ending = .ok results := by
  obtain ⟨moments, grown, shown⟩ := (showsRefusal context).runAll rfl rfl plans {}
  cases ended : (ofPlans context plans).ending with
  | ok results => exact ⟨results, rfl⟩
  | error refusal =>
      obtain ⟨notice, member, refuses⟩ := shown refusal ended
      have called : notice ∈ (ofPlans context plans).notices := by
        rw [notices, ofPlans_eq, grown]
        exact member
      rw [silent notice called] at refuses
      cases refuses

end Run

/-- Beside the calm run, in which no callback refuses to go on: if none of the callbacks called in
it would refuse, the run is the calm one and succeeds. Otherwise it ends with the first refusal,
up to which it is the calm run; no callback is called and no directive carried out after it, and
all that is still written to the journals is the close of the session that is open.
-/
theorem Run.ends_at_first_refusal {context : Context} (works : context.directives.WorksByCalls)
    (plans : List Plan)
    : let calm := ofPlans context.calm plans
      let run := ofPlans context plans
      ((∀ notice ∈ calm.notices, context.refusal? notice = none)
        → run = calm ∧ ∃ results, run.ending = .ok results)
      ∧ ((∃ notice ∈ calm.notices, context.refusal? notice ≠ none)
        → ∃ before notice after refusal,
            calm.log.chronicle = before ++ .noticed notice :: after
            ∧ (∀ earlier ∈ noticesOf before, context.refusal? earlier = none)
            ∧ context.refusal? notice = some refusal
            ∧ run.ending = .error refusal
            ∧ run.notices = noticesOf before ++ [notice]
            ∧ dispatchesOf run.log.chronicle = dispatchesOf before
            ∧ ∀ keep,
                calm.journal keep = entriesOf keep before ++ entriesOf keep after
                ∧ run.journal keep
                  = entriesOf keep before
                    ++ if (openSession before).any keep then [.close] else []) := by
  intro calm run
  obtain ⟨results, kept, refusal, calmly, upTo, ended⟩ := chronicle_upToRefusal works plans
  cases refusal with
  | none =>
      refine ⟨fun _ => ⟨ended, results, ?_⟩, ?_⟩
      · exact (congrArg Run.ending ended).trans calmly
      · rintro ⟨notice, member, refuses⟩
        exact absurd (upTo.notices_pass rfl notice member) refuses
  | some refusal =>
      obtain ⟨before, notice, after, chronicle, rfl, silent, refuses⟩ := upTo.exists_notice
      obtain ⟨error, short⟩ := ended
      constructor
      · intro pass
        have member : notice ∈ calm.notices := by
          change notice ∈ noticesOf calm.log.chronicle
          rw [chronicle]
          simp [noticesOf]
        rw [pass notice member] at refuses
        cases refuses
      · intro _
        have shut (keep : String → Bool) : entriesOf keep (closingOf (before ++ [.noticed notice]))
            = if (openSession before).any keep then [.close] else [] := by
          have unchanged : openSession (before ++ [.noticed notice]) = openSession before := by
            simp [openSession, Moment.openAfter]
          rw [closingOf, unchanged]
          cases openSession before with
          | none => rfl
          | some environment => cases kept : keep environment <;> simp [entriesOf, kept]
        refine ⟨before, notice, after, refusal, chronicle, silent, refuses, error, ?_, ?_, ?_⟩
        · simp [Run.notices, run, short, noticesOf, closingOf]
        · simp [run, short, dispatchesOf, closingOf]
        · intro keep
          have calmWorks : context.calm.directives.WorksByCalls := works
          rw [journal_eq_entriesOf works, journal_eq_entriesOf calmWorks, short, chronicle]
          simp only [entriesOf_append, shut]
          simp [entriesOf]

/-- A task that visits two pages. -/
def visitTask : Task where
  name := "visit"
  steps := [{ name := "open", directives := ["home", "away"] }]

/-- A plan with one visit. -/
def visitPlan : Plan where
  name := "plan"
  environment := "Memory"
  tasks := [visitTask.name]

/-- A context in which every directive loads a page, and in which a callback refuses to go on once
a directive has ended.
-/
def refusingContext : Context where
  directives :=
    ⟨[{ pattern := ⟨"(?P<url>.+)", .capture "url" (.plus (.chars .all) true), ["url"]⟩
        handler := Library.load }]⟩
  callbacks :=
    [{ listener := .console, entity := .directive, phase := .before },
      { listener := .console, entity := .directive, phase := .after, refuse := fun _ => "enough" }]
  tasks := { entries := .ofList [(visitTask.name, visitTask)], named := by decide }
  environments := .ofList [("memory", .site ∅)]

/-- The first of two visits ends the run. -/
theorem Run.ends_at_first_visit
    : refusingContext.directives.WorksByCalls
      ∧ ∃ refusal,
          (ofPlans refusingContext [visitPlan]).ending = .error refusal
          ∧ (ofPlans refusingContext [visitPlan]).notices
            <+: (ofPlans refusingContext.calm [visitPlan]).notices := by
  have works : refusingContext.directives.WorksByCalls := by
    intro form member
    cases List.mem_singleton.mp member
    exact Library.worksByCalls_load
  have met : ∃ notice ∈ (ofPlans refusingContext.calm [visitPlan]).notices,
      refusingContext.refusal? notice ≠ none := by
    have order : order refusingContext.calm visitPlan = ["visit"] := by decide +kernel
    have found : refusingContext.calm.tasks.get? "visit" = some visitTask := by decide +kernel
    simp only [ofPlans, runAll, runPlans, runPlan, order, runTasks, runTask, found, Act.runTask,
      Act.runNested, visitTask, Act.runPrerequisites]
    decide +kernel
  obtain ⟨before, notice, after, refusal, chronicle, _, _, error, notices, _⟩ :=
    (ends_at_first_refusal works [visitPlan]).2 met
  refine ⟨works, refusal, error, noticesOf after, ?_⟩
  change _ = noticesOf (ofPlans refusingContext.calm [visitPlan]).log.chronicle
  rw [notices, chronicle]
  simp [noticesOf]

end Rehearsal
