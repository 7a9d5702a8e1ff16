import Rehearsal.Result
import Rehearsal.Task

/-!
The lifecycle of a run. The run, its plans, tasks, steps and directives are announced to callbacks
before and after their content, in two phases each. The first callback that refuses to go on ends
the run.
-/

namespace Rehearsal

/-- The levels of a run. -/
inductive Entity where
  | all
  | testPlan
  | task
  | step
  | directive
deriving DecidableEq, Repr

/-- The name of a level. -/
def Entity.name : Entity → String
  | all => "All"
  | testPlan => "TestPlan"
  | task => "Task"
  | step => "Step"
  | directive => "Directive"

/-- The phases in which a callback may be called; reporters use the output phases. -/
inductive Phase where
  | before
  | beforeOutput
  | after
  | afterOutput
deriving DecidableEq, Repr

namespace Phase

/-- The name of a phase. -/
def name : Phase → String
  | before => "Before"
  | beforeOutput => "BeforeOutput"
  | after => "After"
  | afterOutput => "AfterOutput"

/-- Whether a phase lies ahead of the content. -/
def isBefore : Phase → Bool
  | before | beforeOutput => true
  | after | afterOutput => false

/-- The phases ahead of the content, in order. -/
def opening : List Phase :=
  [before, beforeOutput]

/-- The phases behind the content, in order. -/
def closing : List Phase :=
  [after, afterOutput]

end Phase

/-- What is announced. The result is known once the content has ended. -/
inductive Event where
  | run (results : Option (List Result))
  | plan (plan : Plan) (result : Option Result)
  | task (task : Task) (result : Option Result)
  | step (step : Step) (result : Option Result)
  | directive (text : String) (result : Option Result)

namespace Event

/-- The level that an event is about. -/
def entity : Event → Entity
  | run _ => .all
  | plan _ _ => .testPlan
  | task _ _ => .task
  | step _ _ => .step
  | directive _ _ => .directive

/-- The name of what an event is about. -/
def name : Event → String
  | run _ => "all"
  | plan subject _ => subject.name
  | task subject _ => subject.name
  | step subject _ => subject.name
  | directive text _ => text

/-- Whether the known result of an event holds a failure. -/
def hasFailure? : Event → Option Bool
  | run results => results.map Result.anyFailure
  | plan _ result | task _ result | step _ result | directive _ result =>
      result.map Result.hasFailure

end Event

/-- Who is called back. -/
inductive Listener where
  | named (label : String)
  | console
  | transcript
deriving DecidableEq, Repr

/-- A callback for one level and one phase. -/
structure Callback where
  listener : Listener
  entity : Entity
  phase : Phase
  /-- The complaint with which it refuses to go on, if it does. -/
  refuse : Event → Option String := fun _ => none

/-- A callback that was called. -/
structure Notice where
  /-- The place of the callback in the order of registration. -/
  place : Nat
  listener : Listener
  phase : Phase
  event : Event

/-- The refusal of a callback, which ends the run. -/
structure Refusal where
  entity : Entity
  phase : Phase
  /-- The name of what was announced. -/
  name : String
  complaint : String
deriving DecidableEq, Repr

/-- The wording of a refusal. -/
def Refusal.message (refusal : Refusal) : String :=
  refusal.entity.name ++ " " ++ refusal.phase.name ++ " callback for '" ++ refusal.name ++ "': "
    ++ refusal.complaint

namespace Callback

/-- Whether a callback is meant for an event in a phase. -/
def hears (callback : Callback) (phase : Phase) (event : Event) : Bool :=
  callback.entity == event.entity && callback.phase == phase

/-- Announces an event in one phase to callbacks that stand from a given place on: those meant
for it are called in order, up to the first that refuses. -/
def announcePhase (phase : Phase) (event : Event) (place : Nat)
    : List Callback → List Notice × Option Refusal
  | [] => ([], none)
  | callback :: rest =>
      if callback.hears phase event then
        let notice : Notice := ⟨place, callback.listener, phase, event⟩
        match callback.refuse event with
        | some complaint => ([notice], some ⟨event.entity, phase, event.name, complaint⟩)
        | none =>
            let (notices, refusal) := announcePhase phase event (place + 1) rest
            (notice :: notices, refusal)
      else announcePhase phase event (place + 1) rest

/-- Announces an event in several phases, up to the first refusal. -/
def announce (callbacks : List Callback) (event : Event)
    : List Phase → List Notice × Option Refusal
  | [] => ([], none)
  | phase :: rest =>
      match announcePhase phase event 0 callbacks with
      | (notices, some refusal) => (notices, some refusal)
      | (notices, none) =>
          let (later, refusal) := announce callbacks event rest
          (notices ++ later, refusal)

end Callback

end Rehearsal
