import Rehearsal.Run.Task
import Rehearsal.Task.Order

/-!
Running plans one after another. Every task of a plan's order has a session and a scope of its
own, and the session is closed however the task ends.
-/

namespace Rehearsal

/-- The journal of a session that has ended. -/
structure SessionRecord where
  /-- The key of its environment. -/
  environment : String
  entries : List Browser.Entry
deriving DecidableEq

/-- What has happened in a run. -/
structure RunLog where
  chronicle : List Moment := []
  /-- The sessions, in the order in which they ended. -/
  sessions : List SessionRecord := []

/-- A part of a run; a refusing callback ends it. -/
abbrev RunM := ExceptT Refusal (StateM RunLog)

namespace Run

/-- Announces an event in some phases. -/
def announce (context : Context) (phases : List Phase) (event : Event) : RunM Unit :=
  ExceptT.mk fun log =>
    let (notices, refusal) := Callback.announce context.callbacks event phases
    let next := { log with chronicle := log.chronicle ++ notices.map .noticed }
    match refusal with
    | some refusal => (.error refusal, next)
    | none => (.ok (), next)

/-- Runs a part in a session, closes the session, and gives the recorded results. -/
def inSession (environment : String) (session : Browser.Session) (scope : Scope)
    (act : Act Unit) : RunM (List Result) :=
  ExceptT.mk fun log =>
    let key := Context.environmentKey environment
    let launched := session.journal.map (.browsed key)
    let (ending, stage) :=
      act.on { session, environment := key, scope, chronicle := log.chronicle ++ launched }
    let closed := (Browser.Drive.close.on stage.session).2
    (ending.map fun _ => stage.nodes,
      { chronicle := stage.chronicle ++ (stage.session.since closed).map (.browsed key)
        sessions := log.sessions ++ [⟨key, closed.journal⟩] })

/-- Runs a task of a plan by name. -/
def runTask (context : Context) (plan : Plan) (name : String) : RunM (List Result) :=
  match context.tasks.get? name with
  | none => return [.failed name (.unknownTask name)]
  | some task =>
      match context.launch plan.environment with
      | .error failure => return [.failed name failure]
      | .ok session =>
          inSession plan.environment session { outermost := plan.frame }
            (Act.runTask context task)

/-- Runs tasks of a plan one after another. -/
def runTasks (context : Context) (plan : Plan) : List String → RunM (List Result)
  | [] => return []
  | name :: rest => do
      let nodes ← runTask context plan name
      return nodes ++ (← runTasks context plan rest)

/-- The order in which the tasks of a plan run. -/
def order (context : Context) (plan : Plan) : List String :=
  Order.ofTasks context.tasks.setups plan.tasks

/-- Runs a plan. -/
def runPlan (context : Context) (plan : Plan) : RunM Result := do
  announce context Phase.opening (.plan plan none)
  let children ← runTasks context plan (order context plan)
  let result : Result := { name := plan.name, children }
  announce context Phase.closing (.plan plan (some result))
  return result

/-- Runs plans one after another. -/
def runPlans (context : Context) : List Plan → RunM (List Result)
  | [] => return []
  | plan :: rest => do
      let result ← runPlan context plan
      return result :: (← runPlans context rest)

/-- Runs all plans and gives one result for each. -/
def runAll (context : Context) (plans : List Plan) : RunM (List Result) := do
  announce context Phase.opening (.run none)
  let results ← runPlans context plans
  announce context Phase.closing (.run (some results))
  return results

end Run

/-- A run that has ended: its results, unless a callback ended it, and what happened. -/
structure Run where
  ending : Except Refusal (List Result)
  log : RunLog

/-- Runs plans. -/
def Run.ofPlans (context : Context) (plans : List Plan) : Run :=
  let (ending, log) := ExceptT.run (Run.runAll context plans) {}
  { ending, log }

/-- The journals of the sessions in some environments, one after another. -/
def journalOf (keep : String → Bool) (sessions : List SessionRecord) : List Browser.Entry :=
  (sessions.filter fun session => keep session.environment).flatMap SessionRecord.entries

/-- The journal that the sessions of some environments share. -/
def Run.journal (run : Run) (keep : String → Bool) : List Browser.Entry :=
  journalOf keep run.log.sessions

/-- The callbacks that were called. -/
def Run.notices (run : Run) : List Notice :=
  noticesOf run.log.chronicle

/-- The handlers that were called. -/
def Run.calls (run : Run) : List HandlerCall :=
  callsOf run.log.chronicle

end Rehearsal
