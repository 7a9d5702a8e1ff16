import Rehearsal.Proofs.Run.Frames
import Rehearsal.Proofs.Run.Telling

/-! What is told of a run can be read out of its chronicle: if a reading of moments gives what is
told of announcements and of directives, it gives what is told of tasks, plans and whole runs.
-/

namespace Rehearsal

-----------------------------------------------------------------------------------------
-- Reading what is told out of the moments of a run
-----------------------------------------------------------------------------------------

/-- What is told can be read out of the moments of a run, one after another. -/
structure Telling.ReadBy {ι : Type} (telling : Telling ι) (context : Context)
    (read : List Moment → List ι)
    : Prop where
  append : ∀ before after, read (before ++ after) = read before ++ read after
  opening
    : ∀ event,
        read ((Callback.heard context.callbacks Phase.opening event).map .noticed)
        = telling.opening event
  closing
    : ∀ event,
        read ((Callback.heard context.callbacks Phase.closing event).map .noticed)
        = telling.closing event
  dispatched : ∀ record, read [.dispatched record] = telling.dispatch record.dispatched.result
  browsed
    : ∀ environment (entries : List Browser.Entry),
        read (entries.map (.browsed environment)) = []
  stepsBegin : ∀ task, read [.stepsBegin task] = []
  stepsEnd : ∀ task, read [.stepsEnd task] = []

namespace Telling.ReadBy

variable {ι : Type} {telling : Telling ι} {context : Context} {read : List Moment → List ι}

theorem nil (reads : telling.ReadBy context read) : read [] = [] :=
  reads.browsed "" []

/-- What is read of parts of a run one after another, by induction on the parts. -/
theorem flatMap {κ : Type} (reads : telling.ReadBy context read) (parts : List κ)
    (moments : κ → List Moment)
    : read (parts.flatMap moments) = parts.flatMap fun part => read (moments part) := by
  induction parts with
  | nil => exact reads.nil
  | cons part rest ih => rw [List.flatMap_cons, List.flatMap_cons, reads.append, ih]

end Telling.ReadBy

/-- A directive, whether or not it could be carried out, gives a childless result. -/
theorem DirectiveRegistry.children_dispatch (registry : DirectiveRegistry) (scope : Scope)
    (directive : String) (session : Browser.Session)
    : (registry.dispatch scope directive session).1.result.children = [] := by
  unfold dispatch
  split
  · rfl
  · split <;> rfl

-----------------------------------------------------------------------------------------
-- Parts of a run that end well
-----------------------------------------------------------------------------------------

/-- Where a part of a run ends well, its value, what it has recorded and the moments in which it did
are as said.
-/
def Tells {σ α ρ : Type} (recorded : σ → List ρ) (chronicle : σ → List Moment)
    (part : ExceptT Refusal (StateM σ) α) (goal : α → List ρ → List Moment → Prop)
    : Prop :=
  ∀ ⦃state value after⦄,
    outcome part state = (.ok value, after)
    → ∃ records moments,
        recorded after = recorded state ++ records
        ∧ chronicle after = chronicle state ++ moments
        ∧ goal value records moments

namespace Tells

variable {σ α β ρ : Type} {recorded : σ → List ρ} {chronicle : σ → List Moment}
  {part : ExceptT Refusal (StateM σ) α} {goal : α → List ρ → List Moment → Prop}

theorem pure {value : α} (met : goal value [] [])
    : Tells recorded chronicle (Pure.pure value) goal := by
  intro state other after ended
  cases ended
  exact ⟨[], [], (List.append_nil _).symm, (List.append_nil _).symm, met⟩

theorem bind {next : α → ExceptT Refusal (StateM σ) β}
    {goal' : β → List ρ → List Moment → Prop} (first : Tells recorded chronicle part goal)
    (rest
      : ∀ value records moments,
          goal value records moments
          → Tells recorded chronicle (next value) fun value' records' moments' =>
              goal' value' (records ++ records') (moments ++ moments'))
    : Tells recorded chronicle (part >>= next) goal' := by
  intro state value after ended
  obtain ⟨middle, between, ended, ended'⟩ := exists_of_outcome_bind ended
  obtain ⟨records, moments, gained, grown, met⟩ := first ended
  obtain ⟨records', moments', gained', grown', met'⟩ := rest middle records moments met ended'
  exact ⟨records ++ records', moments ++ moments', by rw [gained', gained, List.append_assoc],
    by rw [grown', grown, List.append_assoc], met'⟩

theorem mono {goal' : α → List ρ → List Moment → Prop}
    (tells : Tells recorded chronicle part goal)
    (weaker : ∀ value records moments, goal value records moments → goal' value records moments)
    : Tells recorded chronicle part goal' := by
  intro state value after ended
  obtain ⟨records, moments, gained, grown, met⟩ := tells ended
  exact ⟨records, moments, gained, grown, weaker value records moments met⟩

/-- What is said of the same records and moments holds together. -/
theorem and {goal' : α → List ρ → List Moment → Prop}
    (tells : Tells recorded chronicle part goal) (tells' : Tells recorded chronicle part goal')
    : Tells recorded chronicle part fun value records moments =>
        goal value records moments ∧ goal' value records moments := by
  intro state value after ended
  obtain ⟨records, moments, gained, grown, met⟩ := tells ended
  obtain ⟨records', moments', gained', grown', met'⟩ := tells' ended
  cases List.append_cancel_left (gained'.symm.trans gained)
  cases List.append_cancel_left (grown'.symm.trans grown)
  exact ⟨records, moments, gained, grown, met, met'⟩

end Tells

-----------------------------------------------------------------------------------------
-- Parts within a session
-----------------------------------------------------------------------------------------

namespace Act

variable {ι : Type} {telling : Telling ι} {context : Context} {read : List Moment → List ι}
  {α : Type}

/-- What a part within a session tells. -/
abbrev Tells (act : Act α) (goal : α → List Result → List Moment → Prop) : Prop :=
  Rehearsal.Tells Stage.nodes Stage.chronicle act goal

theorem Tells.within {act : Act α} {goal : α → List Result → List Moment → Prop} (frame : Variables)
    (tells : Tells act goal)
    : Tells (Act.within frame act) goal := by
  intro stage value after ended
  rw [outcome_within] at ended
  cases inner : outcome act { stage with scope := stage.scope.push frame } with
  | mk ending left =>
      rw [inner] at ended
      cases ended
      obtain ⟨nodes, moments, recorded, grown, met⟩ := tells inner
      exact ⟨nodes, moments, recorded, grown, met⟩

theorem tells_announce (phases : List Phase) (event : Event)
    : Tells (announce context phases event) fun _ nodes moments =>
        nodes = [] ∧ moments = (Callback.heard context.callbacks phases event).map .noticed := by
  intro stage value after ended
  rw [outcome_announce] at ended
  cases refused : (Callback.announce context.callbacks event phases).2 with
  | some refusal => simp [refused] at ended
  | none =>
      rw [refused] at ended
      cases ended
      rw [Callback.announce_eq_heard refused]
      exact ⟨[], _, (List.append_nil _).symm, rfl, rfl, rfl⟩

theorem tells_dispatch (chain : List String) (directive : String)
    : Tells (dispatch context chain directive) fun result nodes moments =>
        nodes = []
        ∧ result.name = directive
        ∧ result.children = []
        ∧ ∃ record environment, ∃ entries : List Browser.Entry,
            moments = [.dispatched record] ++ entries.map (.browsed environment)
            ∧ record.dispatched.result = result := by
  intro stage value after ended
  rw [outcome_dispatch] at ended
  cases ended
  exact ⟨[], _, (List.append_nil _).symm, List.append_assoc _ _ _, rfl,
    context.directives.name_dispatch _ _ _, context.directives.children_dispatch _ _ _,
    _, _, _, rfl, rfl⟩

theorem tells_note (moment : Moment)
    : Tells (note moment) fun _ nodes moments => nodes = [] ∧ moments = [moment] := by
  intro stage value after ended
  cases ended
  exact ⟨[], _, (List.append_nil _).symm, rfl, rfl, rfl⟩

theorem tells_putNode (node : Result)
    : Tells (putNode node) fun _ nodes moments => nodes = [node] ∧ moments = [] := by
  intro stage value after ended
  cases ended
  exact ⟨_, [], rfl, (List.append_nil _).symm, rfl, rfl⟩

theorem tells_runDirective (reads : telling.ReadBy context read) (chain : List String)
    (directive : String)
    : Tells (runDirective context chain directive) fun result nodes moments =>
        nodes = []
        ∧ result.name = directive
        ∧ result.children = []
        ∧ read moments = telling.ofDirective result := by
  refine (tells_announce _ _).bind ?_
  rintro _ _ _ ⟨rfl, rfl⟩
  refine (tells_dispatch _ _).bind ?_
  rintro result _ _ ⟨rfl, named, childless, record, environment, entries, rfl, rfl⟩
  refine (tells_announce _ _).bind ?_
  rintro _ _ _ ⟨rfl, rfl⟩
  refine .pure ⟨rfl, named, childless, ?_⟩
  simp only [reads.append, reads.opening, reads.dispatched, reads.browsed, reads.closing,
    List.append_nil, List.nil_append, Telling.ofDirective, Telling.around, named,
    List.append_assoc]

theorem tells_runDirectives (reads : telling.ReadBy context read) (chain directives : List String)
    : Tells (runDirectives context chain directives) fun value nodes moments =>
        nodes = []
        ∧ value.1.map Result.name <+: directives
        ∧ (∀ node ∈ value.1, node.children = [])
        ∧ read moments = value.1.flatMap telling.ofDirective := by
  induction directives with
  | nil => exact .pure ⟨rfl, List.prefix_rfl, by simp, reads.nil⟩
  | cons directive rest ih =>
      refine (tells_runDirective reads chain directive).bind ?_
      rintro result _ moments ⟨rfl, rfl, childless, told⟩
      cases abortion? result with
      | some failure =>
          refine .pure ⟨rfl, ?_, ?_, ?_⟩
          · exact ⟨rest, rfl⟩
          · simpa using childless
          · simpa using told
      | none =>
          refine ih.bind ?_
          rintro ⟨results, failure⟩ _ later ⟨rfl, named, flat, told'⟩
          refine .pure ⟨rfl, ?_, ?_, ?_⟩
          · simpa using named
          · simpa using ⟨childless, flat⟩
          · simp only [reads.append, List.append_nil, told, told', List.flatMap_cons]

theorem tells_runStep (reads : telling.ReadBy context read) (chain : List String) (step : Step)
    : Tells (runStep context chain step) fun result nodes moments =>
        nodes = [] ∧ step.IsResult result ∧ read moments = telling.ofStep step result := by
  refine (tells_announce _ _).bind ?_
  rintro _ _ _ ⟨rfl, rfl⟩
  refine (tells_runDirectives reads chain step.directives).bind ?_
  rintro ⟨children, error⟩ _ moments ⟨rfl, named, flat, told⟩
  refine (tells_announce _ _).bind ?_
  rintro _ _ _ ⟨rfl, rfl⟩
  refine .pure ⟨rfl, ⟨rfl, named, flat⟩, ?_⟩
  simp only [reads.append, reads.opening, reads.closing, told, List.append_nil, Telling.ofStep,
    Telling.around, List.append_assoc]

theorem tells_runSteps (reads : telling.ReadBy context read) (chain : List String)
    (steps : List Step)
    : Tells (runSteps context chain steps) fun results nodes moments =>
        nodes = []
        ∧ List.Forall₂ Step.IsResult steps results
        ∧ read moments = telling.ofSteps steps results := by
  induction steps with
  | nil => exact .pure ⟨rfl, .nil, reads.nil⟩
  | cons step rest ih =>
      refine (tells_runStep reads chain step).bind ?_
      rintro result _ moments ⟨rfl, isResult, told⟩
      refine ih.bind ?_
      rintro results _ later ⟨rfl, others, told'⟩
      refine .pure ⟨rfl, .cons isResult others, ?_⟩
      simp only [reads.append, List.append_nil, told, told']
      rfl

/-- Names are told of one after another if each of them is. -/
theorem tells_runPrerequisites (reads : telling.ReadBy context read) {chain names : List String}
    (each
      : ∀ name ∈ names,
          Tells (runPrerequisite context chain name) fun _ nodes moments =>
            telling.OfTasks context.tasks chain [name] nodes (read moments))
    : Tells (runPrerequisites context chain names) fun _ nodes moments =>
        telling.OfTasks context.tasks chain names nodes (read moments) := by
  induction names with
  | nil =>
      rw [runPrerequisites]
      exact .pure (reads.nil ▸ .nil)
  | cons name rest ih =>
      obtain ⟨head, tail⟩ := List.forall_mem_cons.mp each
      rw [runPrerequisites]
      refine head.bind fun _ nodes moments first => (ih tail).mono fun _ nodes' moments' later => ?_
      rw [reads.append]
      exact first.append later

/-- A registered task that is not under way is told of around its prerequisites and its steps, by
induction along the prerequisites.
-/
theorem tells_runNested (reads : telling.ReadBy context read) {chain : List String} {task : Task}
    (fresh : task.name ∉ chain) (found : context.tasks.get? task.name = some task)
    : Tells (runNested context chain task) fun _ nodes moments =>
        telling.OfTasks context.tasks chain [task.name] nodes (read moments) := by
  induction chain, task using context.tasks.prerequisites_induction with
  | inherits chain task below =>
    rw [runNested]
    refine (tells_announce _ _).bind ?_
    rintro _ _ _ ⟨rfl, rfl⟩
    have content
        : Tells
            (do
              runPrerequisites context (chain ++ [task.name]) task.prerequisites
              note (.stepsBegin task.name)
              let children ← runSteps context (chain ++ [task.name]) task.steps
              note (.stepsEnd task.name)
              return children)
            fun children nodes moments =>
              List.Forall₂ Step.IsResult task.steps children
              ∧ ∃ before,
                  telling.OfTasks context.tasks (chain ++ [task.name]) task.prerequisites nodes
                    before
                  ∧ read moments = before ++ telling.ofSteps task.steps children := by
      refine (tells_runPrerequisites reads fun name member => ?_).bind ?_
      · rw [runPrerequisite_eq]
        cases under : (chain ++ [task.name]).contains name with
        | true =>
            refine (tells_putNode _).mono ?_
            rintro _ _ _ ⟨rfl, rfl⟩
            rw [reads.nil]
            exact .underWay (List.contains_iff_mem.mp under) .nil
        | false =>
            have idle : name ∉ chain ++ [task.name] := by simpa using under
            simp only [Bool.false_eq_true, ↓reduceIte]
            cases known : context.tasks.get? name with
            | none =>
                refine (tells_putNode _).mono ?_
                rintro _ _ _ ⟨rfl, rfl⟩
                rw [reads.nil]
                exact .unknown idle known .nil
            | some next =>
                have same : next.name = name := TaskRegistry.name_of_get? known
                subst same
                exact below _ member next under known idle known
      · intro _ nodes moments prerequisites
        refine (tells_note _).bind ?_
        rintro _ _ _ ⟨rfl, rfl⟩
        refine (tells_runSteps reads _ _).bind ?_
        rintro children _ more ⟨rfl, results, told⟩
        refine (tells_note _).bind ?_
        rintro _ _ _ ⟨rfl, rfl⟩
        refine .pure ⟨results, read moments, ?_, ?_⟩
        · simpa using prerequisites
        · simp only [reads.append, reads.stepsBegin, reads.stepsEnd, told,
            List.append_nil, List.nil_append]
    refine (content.within task.frame).bind ?_
    rintro children nodes moments ⟨results, before, prerequisites, told⟩
    refine (tells_announce _ _).bind ?_
    rintro _ _ _ ⟨rfl, rfl⟩
    refine (tells_putNode _).mono ?_
    rintro _ _ _ ⟨rfl, rfl⟩
    have whole := Telling.OfTasks.runs fresh found prerequisites results .nil
    simpa only [reads.append, reads.opening, reads.closing, reads.nil, told, List.append_nil,
      List.nil_append, Telling.around, List.append_assoc] using whole

end Act

-----------------------------------------------------------------------------------------
-- Whole runs
-----------------------------------------------------------------------------------------

namespace Run

variable {ι : Type} {telling : Telling ι} {context : Context} {read : List Moment → List ι}
  {α β : Type}

/-- What a part of a run tells, which gives results and records sessions. -/
abbrev Tells (part : RunM α) (goal : α → List SessionRecord → List Moment → Prop) : Prop :=
  Rehearsal.Tells RunLog.sessions RunLog.chronicle part goal

/-- What sessions one after another have added to the log is told of them. -/
theorem tells_of_leadsBy {environment : String} {part : RunM α}
    (leads : Moves (RunLog.LeadsBy context environment) part)
    : Tells part fun _ sessions moments => context.Carries environment moments sessions := by
  intro log value after ended
  obtain ⟨moments, sessions, grown, gained, carries⟩ := leads log
  rw [ended] at grown gained
  exact ⟨sessions, moments, gained, grown, carries⟩

theorem tells_announce (phases : List Phase) (event : Event)
    : Tells (announce context phases event) fun _ sessions moments =>
        sessions = []
        ∧ moments = (Callback.heard context.callbacks phases event).map .noticed := by
  intro log value after ended
  rw [outcome_announce] at ended
  cases refused : (Callback.announce context.callbacks event phases).2 with
  | some refusal => simp [refused] at ended
  | none =>
      rw [refused] at ended
      cases ended
      rw [Callback.announce_eq_heard refused]
      exact ⟨[], _, (List.append_nil _).symm, rfl, rfl, rfl⟩

/-- Of a session, what is told is what is told within it. -/
theorem tells_inSession (reads : telling.ReadBy context read) {act : Act Unit}
    {goal : List Result → List ι → Prop}
    (tells : act.Tells fun _ nodes moments => goal nodes (read moments)) (environment : String)
    (pages : Browser.Site) (scope : Scope)
    : Tells (inSession environment (.launch pages) scope act) fun nodes _ moments =>
        goal nodes (read moments) := by
  intro log value after ended
  rw [outcome_inSession_eq] at ended
  cases inner : outcome act (log.stage environment pages scope) with
  | mk ending left =>
      rw [inner] at ended
      cases ending with
      | error refusal => cases ended
      | ok _ =>
          cases ended
          obtain ⟨nodes, moments, recorded, grown, met⟩ := tells inner
          let key := Context.environmentKey environment
          let closed := (Browser.Drive.close.on left.session).2
          have launched : read [.browsed key .launch] = [] := reads.browsed key [.launch]
          refine
            ⟨[⟨key, closed.journal⟩], [.browsed key .launch] ++ moments
              ++ (left.session.since closed).map (.browsed key), rfl, ?_, ?_⟩
          · simp only [grown, log.chronicle_stage, List.append_assoc, key, closed]
          · simp only [reads.append, launched, reads.browsed, List.nil_append, List.append_nil,
              recorded]
            exact met

theorem tells_runTask (reads : telling.ReadBy context read) (plan : Plan) (name : String)
    : Tells (runTask context plan name) fun nodes _ moments =>
        telling.OfName context plan name nodes (read moments) := by
  unfold runTask
  cases found : context.tasks.get? name with
  | none =>
      refine .pure ?_
      rw [reads.nil]
      exact .unknown found
  | some task =>
      have same : task.name = name := TaskRegistry.name_of_get? found
      subst same
      cases launched : context.launch plan.environment with
      | error failure =>
          refine .pure ?_
          rw [reads.nil]
          exact .unlaunched found launched
      | ok session =>
          obtain ⟨pages, rfl⟩ := Context.exists_site_of_launch launched
          have nested := Act.tells_runNested reads (List.not_mem_nil) found
          exact tells_inSession reads
            (nested.mono fun _ _ _ ran => Telling.OfName.runs launched ran) _ _ _

/-- Names one after another, of each of which something is told. -/
theorem tells_runTasks {plan : Plan} {told : String → List Result → List Moment → Prop}
    (each
      : ∀ name, Tells (runTask context plan name) fun nodes _ moments => told name nodes moments)
    (names : List String)
    : Tells (runTasks context plan names) fun nodes _ moments =>
        ∃ parts : List (List Result × List Moment),
          List.Forall₂ (fun name part => told name part.1 part.2) names parts
          ∧ nodes = parts.flatMap Prod.fst
          ∧ moments = parts.flatMap Prod.snd := by
  induction names with
  | nil => exact .pure ⟨[], .nil, rfl, rfl⟩
  | cons name rest ih =>
      refine (each name).bind fun nodes _ moments first => ?_
      refine ih.bind ?_
      rintro _ _ _ ⟨parts, later, rfl, rfl⟩
      refine .pure ⟨(nodes, moments) :: parts, .cons first later, rfl, ?_⟩
      rw [List.append_nil, List.flatMap_cons]

theorem tells_runPlan (reads : telling.ReadBy context read) (plan : Plan)
    : Tells (runPlan context plan) fun result _ moments =>
        telling.OfPlan context plan result (read moments) := by
  refine (tells_announce _ _).bind ?_
  rintro _ _ _ ⟨_, rfl⟩
  refine (tells_runTasks (tells_runTask reads plan) (order context plan)).bind ?_
  rintro _ _ _ ⟨parts, names, rfl, rfl⟩
  refine (tells_announce _ _).bind ?_
  rintro _ _ _ ⟨_, rfl⟩
  refine .pure ?_
  have told
      : List.Forall₂ (fun name part => telling.OfName context plan name part.1 part.2)
          (order context plan) (parts.map fun part => (part.1, read part.2)) :=
    List.forall₂_map_right_iff.mpr names
  simpa only [List.append_nil, reads.append, reads.opening, reads.closing, reads.flatMap,
    List.flatMap_map, Telling.around, List.append_assoc]
    using Telling.OfPlan.runs told

/-- Plans one after another, of each of which something is told. -/
theorem tells_runPlans {told : Plan → Result → RunLog → Prop}
    (each
      : ∀ plan,
          Tells (runPlan context plan) fun result sessions moments =>
            told plan result ⟨moments, sessions⟩)
    (plans : List Plan)
    : Tells (runPlans context plans) fun results sessions moments =>
        ∃ parts : List (Result × RunLog),
          List.Forall₂ (fun plan part => told plan part.1 part.2) plans parts
          ∧ results = parts.map Prod.fst
          ∧ sessions = parts.flatMap (fun part => part.2.sessions)
          ∧ moments = parts.flatMap (fun part => part.2.chronicle) := by
  induction plans with
  | nil => exact .pure ⟨[], .nil, rfl, rfl, rfl⟩
  | cons plan rest ih =>
      refine (each plan).bind fun result sessions moments first => ?_
      refine ih.bind ?_
      rintro _ _ _ ⟨parts, later, rfl, rfl, rfl⟩
      refine .pure ⟨(result, ⟨moments, sessions⟩) :: parts, .cons first later, rfl, ?_, ?_⟩
      · rw [List.append_nil, List.flatMap_cons]
      · rw [List.append_nil, List.flatMap_cons]

/-- The sessions of a run are those of its plans, and so are its moments, between those of its own
announcements.
-/
theorem tells_runAll {told : Plan → Result → RunLog → Prop}
    (each
      : ∀ plan,
          Tells (runPlan context plan) fun result sessions moments =>
            told plan result ⟨moments, sessions⟩)
    (plans : List Plan)
    : Tells (runAll context plans) fun results sessions moments =>
        ∃ parts : List (Result × RunLog),
          List.Forall₂ (fun plan part => told plan part.1 part.2) plans parts
          ∧ results = parts.map Prod.fst
          ∧ sessions = parts.flatMap (fun part => part.2.sessions)
          ∧ moments
            = (Callback.heard context.callbacks Phase.opening (.run none)).map .noticed
              ++ parts.flatMap (fun part => part.2.chronicle)
              ++ (Callback.heard context.callbacks Phase.closing (.run (some results))).map
                .noticed := by
  refine (tells_announce _ _).bind ?_
  rintro _ _ _ ⟨rfl, rfl⟩
  refine (tells_runPlans each plans).bind ?_
  rintro _ _ _ ⟨parts, ran, rfl, rfl, rfl⟩
  refine (tells_announce _ _).bind ?_
  rintro _ _ _ ⟨rfl, rfl⟩
  refine .pure ⟨parts, ran, rfl, ?_, ?_⟩
  · rw [List.append_nil, List.append_nil, List.nil_append]
  · rw [List.append_nil, List.append_assoc]

/-- What is told of a run that ends well can be read out of its chronicle. -/
theorem told_of_ended (reads : telling.ReadBy context read) {plans : List Plan}
    {results : List Result} (ended : (ofPlans context plans).ending = .ok results)
    : telling.OfRun context plans results (read (ofPlans context plans).log.chronicle) := by
  have whole : outcome (runAll context plans) {} = (.ok results, (ofPlans context plans).log) :=
    Prod.ext ended rfl
  let told (plan : Plan) (result : Result) (log : RunLog) : Prop :=
    telling.OfPlan context plan result (read log.chronicle)
  have each (plan : Plan)
      : Tells (runPlan context plan) fun result sessions moments =>
          told plan result ⟨moments, sessions⟩ :=
    tells_runPlan reads plan
  obtain ⟨_, _, _, grown, parts, ran, rfl, _, rfl⟩ := tells_runAll each plans whole
  rw [grown]
  have readings
      : List.Forall₂ (fun plan part => telling.OfPlan context plan part.1 part.2) plans
          (parts.map fun part => (part.1, read part.2.chronicle)) :=
    List.forall₂_map_right_iff.mpr ran
  simpa only [List.nil_append, reads.append, reads.opening, reads.closing, reads.flatMap,
    List.flatMap_map, List.map_map, Function.comp_def, Telling.around, List.append_assoc]
    using Telling.OfRun.runs readings

end Run

end Rehearsal
