import Rehearsal.Proofs.Run.Abort
import Rehearsal.Proofs.Run.Isolation

/-! The journal that the sessions of a run share. However the run ends, it is made of one block for
each session, from the launch to the close, and a task that is run for another one has no session of
its own.
-/

namespace Rehearsal

namespace Browser

/-- The entries of one session: its launch, what is done in it, and its close. Nothing that is done
in it is written down as a launch or a close.
-/
def IsBlock (entries : List Entry) : Prop :=
  ∃ inner,
    entries = .launch :: inner ++ [.close]
    ∧ ∀ entry ∈ inner, entry.text ≠ Entry.launch.text ∧ entry.text ≠ Entry.close.text

/-- The letters with which the written form of an entry begins. -/
def Entry.start : Entry → List Char
  | launch => ['l', 'a', 'u']
  | navigate _ => ['n', 'a', 'v']
  | click _ => ['c', 'l', 'i']
  | typed _ _ => ['t', 'y', 'p']
  | select _ _ => ['s', 'e', 'l']
  | close => ['c', 'l', 'o']

theorem Entry.take_text (entry : Entry) : entry.text.toList.take 3 = entry.start := by
  cases entry with
  | launch | close => decide
  | _ =>
      simp only [text, String.toList_append, List.append_assoc]
      rfl

/-- An inner entry begins otherwise than a launch or a close. -/
theorem Entry.Inner.text_ne {entry : Entry} (inner : entry.Inner)
    : entry.text ≠ Entry.launch.text ∧ entry.text ≠ Entry.close.text := by
  have told {other : Entry} (differ : entry.start ≠ other.start) : entry.text ≠ other.text := by
    intro same
    rw [← take_text, ← take_text, same] at differ
    exact differ rfl
  cases entry with
  | launch => exact absurd rfl inner.1
  | close => exact absurd rfl inner.2
  | _ => exact ⟨told (by simp [start]), told (by simp [start])⟩

end Browser

open Browser

-----------------------------------------------------------------------------------------
-- Sessions that are added
-----------------------------------------------------------------------------------------

/-- The sessions that have been added to a log since an earlier state of it have journals in one
block each.
-/
def RunLog.AddsBlocks (before after : RunLog) : Prop :=
  ∃ sessions,
    after.sessions = before.sessions ++ sessions
    ∧ ∀ session ∈ sessions, IsBlock session.entries

namespace RunLog.AddsBlocks

theorem refl (log : RunLog) : log.AddsBlocks log :=
  ⟨[], (List.append_nil _).symm, by simp⟩

theorem trans {first second third : RunLog} (left : first.AddsBlocks second)
    (right : second.AddsBlocks third)
    : first.AddsBlocks third := by
  obtain ⟨sessions, grown, blocks⟩ := left
  obtain ⟨more, grownMore, blocksMore⟩ := right
  refine ⟨sessions ++ more, ?_, List.forall_mem_append.mpr ⟨blocks, blocksMore⟩⟩
  rw [grownMore, grown, List.append_assoc]

end RunLog.AddsBlocks

namespace Run

variable {context : Context}

/-- Every part of a run adds blocks, if the handlers work by calls: a session is closed also where
a callback has refused to go on within it.
-/
theorem addsBlocks (works : context.directives.WorksByCalls)
    : Congruence context context fun part _ => Moves RunLog.AddsBlocks part where
  pure _ := fun log => .refl log
  bind first rest := Moves.bind .trans first rest
  announce phases event := by
    intro log
    rw [outcome_announce]
    exact .refl log
  inSession environment pages scope task := by
    intro log
    obtain ⟨moments, _, within, ended⟩ :=
      outcome_inSession (Act.leads_runTask works task) environment pages scope log
    rw [ended]
    refine ⟨_, rfl, List.forall_mem_singleton.mpr ⟨_, rfl, fun entry member => ?_⟩⟩
    obtain ⟨moment, told, same⟩ := List.mem_filterMap.mp member
    cases moment with
    | browsed environment written =>
        cases same
        exact (within _ told).2.text_ne
    | _ => cases same

theorem isBlock_of_mem_sessions (works : context.directives.WorksByCalls) (plans : List Plan)
    : ∀ session ∈ (ofPlans context plans).log.sessions, IsBlock session.entries := by
  obtain ⟨sessions, grown, blocks⟩ := (addsBlocks works).runAll rfl rfl plans {}
  have whole : (ofPlans context plans).log.sessions = sessions := by
    rw [ofPlans_eq, grown]
    rfl
  rw [whole]
  exact blocks

end Run

-----------------------------------------------------------------------------------------
-- The sessions of the names in the order of a plan
-----------------------------------------------------------------------------------------

/-- A session can be launched exactly in a registered environment that shows a site. -/
theorem Context.launch_eq_ok_iff {context : Context} {name : String}
    {session : Browser.Session}
    : context.launch name = .ok session
      ↔ ∃ pages,
          context.environments.get? (environmentKey name) = some (.site pages)
          ∧ session = .launch pages := by
  unfold launch
  cases context.environments.get? (environmentKey name) with
  | none => simp
  | some environment =>
      cases environment with
      | site pages => simp [Environment.launch, eq_comm]
      | unavailable failure => simp [Environment.launch]

/-- A name has a session exactly if it is a registered task and its environment is registered, and
it has it in that environment.
-/
theorem Context.sessionOf?_eq (context : Context) (plan : Plan) (name : String)
    : ((context.sessionOf? plan name).isSome = true
        ↔ (∃ task, context.tasks.get? name = some task)
          ∧ ∃ pages,
              context.environments.get? (environmentKey plan.environment) = some (.site pages))
      ∧ ∀ session ∈ context.sessionOf? plan name,
          session.environment = environmentKey plan.environment := by
  unfold sessionOf? Run.runTask
  cases found : context.tasks.get? name with
  | none => simp [outcome_pure]
  | some task =>
      cases launched : context.launch plan.environment with
      | error failure =>
          have lacking (pages : Site)
              : context.environments.get? (environmentKey plan.environment)
                ≠ some (.site pages) := by
            intro site
            cases launched.symm.trans (launch_eq_ok_iff.mpr ⟨pages, site, rfl⟩)
          simp [outcome_pure, lacking]
      | ok session =>
          obtain ⟨pages, site, rfl⟩ := launch_eq_ok_iff.mp launched
          simp [Run.outcome_inSession_eq, site]

namespace Run

variable {context : Context}

/-- The journals of the sessions of a plan in some environments. -/
theorem entries_sessionsOf (plan : Plan) (keep : String → Bool)
    : ((context.sessionsOf plan).filter fun session => keep session.environment).map
        SessionRecord.entries
      = if keep (Context.environmentKey plan.environment)
        then (order context plan).filterMap (context.journalOf? plan) else [] := by
  have where_ (session : SessionRecord) (member : session ∈ context.sessionsOf plan)
      : session.environment = Context.environmentKey plan.environment := by
    obtain ⟨name, _, own⟩ := List.mem_filterMap.mp member
    exact (context.sessionOf?_eq plan name).2 session own
  cases kept : keep (Context.environmentKey plan.environment) with
  | true =>
      have all : ((context.sessionsOf plan).filter fun session => keep session.environment)
          = context.sessionsOf plan :=
        List.filter_eq_self.mpr fun session member => by rw [where_ session member, kept]
      rw [all, if_pos rfl]
      exact List.map_filterMap
  | false =>
      have none : ((context.sessionsOf plan).filter fun session => keep session.environment)
          = [] :=
        List.filter_eq_nil_iff.mpr fun session member => by simp [where_ session member, kept]
      rw [none, if_neg Bool.false_ne_true]
      rfl

/-- With the built-in forms, the journal that the sessions in some environments share, which is
what the chronicle tells of them, is made of blocks one after another, however the run ends. If no
callback refuses to go on, the run ends well, and there is one block for each name in the orders of
the plans, one after another, that is a registered task of a plan whose environment is registered.
There is no other: the block is the journal that the name has by itself, and a prerequisite writes
to the block of the task that it is run for.
-/
theorem journal_in_blocks {timing : Library.Timing} {context : Context}
    (built : Library.register timing ∅ = .ok context.directives) (plans : List Plan)
    : let run := ofPlans context plans
      (∀ keep,
        run.journal keep = entriesOf keep run.log.chronicle
        ∧ ∃ blocks,
            run.journal keep = blocks.flatten
            ∧ (∀ block ∈ blocks, IsBlock block)
            ∧ ((∀ notice ∈ run.notices, context.refusal? notice = none)
              → (∃ results, run.ending = .ok results)
                ∧ blocks
                  = plans.flatMap fun plan =>
                      if keep (Context.environmentKey plan.environment)
                      then (order context plan).filterMap (context.journalOf? plan) else []))
      ∧ ∀ plan name,
          (context.journalOf? plan name).isSome = true
          ↔ (∃ task, context.tasks.get? name = some task)
            ∧ ∃ pages,
                context.environments.get? (Context.environmentKey plan.environment)
                = some (.site pages) := by
  intro run
  have works : context.directives.WorksByCalls :=
    Library.library_worksByCalls (fun form member => by cases member) built
  constructor
  · intro keep
    let sessions := run.log.sessions.filter fun session => keep session.environment
    refine ⟨journal_eq_entriesOf works plans keep, sessions.map SessionRecord.entries,
      List.flatMap_def, ?_, ?_⟩
    · intro block member
      obtain ⟨session, kept, rfl⟩ := List.mem_map.mp member
      exact isBlock_of_mem_sessions works plans session (List.mem_filter.mp kept).1
    · intro silent
      obtain ⟨results, ended⟩ := exists_results_of_silent silent
      obtain ⟨_, whole⟩ := ofPlans_eq_contributions ended
      refine ⟨⟨results, ended⟩, ?_⟩
      simp only [sessions, run, whole, List.filter_flatMap, List.map_flatMap, entries_sessionsOf]
  · intro plan name
    rw [Context.journalOf?, Option.isSome_map]
    exact (context.sessionOf?_eq plan name).1

/-- A visit and the task that it runs first share one block. -/
theorem journal_of_visit
    : let context := browsingContext (.every 1) visitTasks
      Library.register (.every 1) ∅ = .ok context.directives
      ∧ ∃ block,
          (ofPlans context [browsingPlan "memory" ["visit"]]).journal (fun _ => true) = block
          ∧ IsBlock block := by
  intro context
  have built : Library.register (.every 1) ∅ = .ok context.directives :=
    Library.register_eq (.every 1) ∅
  let plan := browsingPlan "memory" ["visit"]
  obtain ⟨journals, hasJournal⟩ := journal_in_blocks built [plan]
  obtain ⟨_, blocks, whole, each, exactly⟩ := journals fun _ => true
  have key : Context.environmentKey plan.environment = "memory" := by decide +kernel
  have site : context.environments.get? (Context.environmentKey plan.environment)
      = some (.site ∅) := by
    rw [key]
    rfl
  have one : (context.journalOf? plan "visit").isSome = true :=
    (hasJournal plan "visit").mpr ⟨⟨_, rfl⟩, ∅, site⟩
  obtain ⟨block, own⟩ := Option.isSome_iff_exists.mp one
  have inOrder : order context plan = ["visit"] := by decide +kernel
  have silent (notice : Notice) (_ : notice ∈ (ofPlans context [plan]).notices)
      : context.refusal? notice = none :=
    rfl
  have same : blocks = [block] := by
    rw [(exactly silent).2]
    simp [inOrder, own]
  subst same
  exact ⟨built, block, by simpa using whole, each block (by simp)⟩

end Run

end Rehearsal
