import Rehearsal.Run.Context

/-!
Running steps in a session. A directive that fails does not end its step, unless it fails for the
set-up of the suite; only a refusing callback ends more than a step.
-/

namespace Rehearsal

/-- A directive that was carried out in the course of a run. -/
structure DispatchRecord where
  /-- The names of the tasks under way, the innermost last. -/
  chain : List String
  scope : Scope
  dispatched : Dispatched

/-- A moment of a run. -/
inductive Moment where
  | noticed (notice : Notice)
  | dispatched (record : DispatchRecord)
  /-- An entry in the journal of a session of some environment. -/
  | browsed (environment : String) (entry : Browser.Entry)
  /-- The steps of a task begin, as its prerequisites have ended. -/
  | stepsBegin (task : String)
  | stepsEnd (task : String)

/-- The callbacks that were called in a part of a run. -/
def noticesOf (chronicle : List Moment) : List Notice :=
  chronicle.filterMap fun
    | .noticed notice => some notice
    | _ => none

/-- The directives that were carried out in a part of a run. -/
def dispatchesOf (chronicle : List Moment) : List DispatchRecord :=
  chronicle.filterMap fun
    | .dispatched record => some record
    | _ => none

/-- The handlers that were called in a part of a run. -/
def callsOf (chronicle : List Moment) : List HandlerCall :=
  (dispatchesOf chronicle).filterMap fun record => record.dispatched.call

/-- The entries in the journals of some environments in a part of a run. -/
def entriesOf (keep : String → Bool) (chronicle : List Moment) : List Browser.Entry :=
  chronicle.filterMap fun
    | .browsed environment entry => if keep environment then some entry else none
    | _ => none

/-- The state of a running task. -/
structure Stage where
  session : Browser.Session
  /-- The key of the environment of the session. -/
  environment : String := ""
  scope : Scope := {}
  /-- The results of the tasks that have ended. -/
  nodes : List Result := []
  /-- What has happened, in order. -/
  chronicle : List Moment := []

/-- A part of a run within one session; a refusing callback ends it. -/
abbrev Act := ExceptT Refusal (StateM Stage)

namespace Act

/-- What a part of a run comes to, and the state after it. -/
def on {α : Type} (act : Act α) (stage : Stage) : Except Refusal α × Stage :=
  act.run stage

/-- Writes down a moment. -/
def note (moment : Moment) : Act Unit :=
  modify fun stage => { stage with chronicle := stage.chronicle ++ [moment] }

/-- Puts a later state of the session in place of the present one, and writes down what has been
done in between. -/
def resume (session : Browser.Session) : Act Unit :=
  modify fun stage =>
    { stage with
      session
      chronicle := stage.chronicle
        ++ (stage.session.since session).map (.browsed stage.environment) }

/-- Announces an event in some phases. -/
def announce (context : Context) (phases : List Phase) (event : Event) : Act Unit :=
  ExceptT.mk fun stage =>
    let (notices, refusal) := Callback.announce context.callbacks event phases
    let next := { stage with chronicle := stage.chronicle ++ notices.map .noticed }
    match refusal with
    | some refusal => (.error refusal, next)
    | none => (.ok (), next)

/-- Carries out a directive. -/
def dispatch (context : Context) (chain : List String) (directive : String) : Act Result := do
  let stage ← get
  let (dispatched, session) :=
    context.directives.dispatch stage.scope directive stage.session
  note (.dispatched ⟨chain, stage.scope, dispatched⟩)
  resume session
  return dispatched.result

/-- Runs a directive. -/
def runDirective (context : Context) (chain : List String) (directive : String) : Act Result := do
  announce context Phase.opening (.directive directive none)
  let result ← dispatch context chain directive
  announce context Phase.closing (.directive directive (some result))
  return result

/-- The failure of a step that ends because of a directive's result. -/
def abortion? (result : Result) : Option Failure :=
  match result.error with
  | some failure =>
      if failure.isConfiguration then some (.stepAborted result.name failure.message) else none
  | none => none

/-- Runs directives up to the first that ends the step; gives their results and the failure of
the step. -/
def runDirectives (context : Context) (chain : List String)
    : List String → Act (List Result × Option Failure)
  | [] => return ([], none)
  | directive :: rest => do
      let result ← runDirective context chain directive
      match abortion? result with
      | some failure => return ([result], some failure)
      | none =>
          let (results, failure) ← runDirectives context chain rest
          return (result :: results, failure)

/-- Runs a step. -/
def runStep (context : Context) (chain : List String) (step : Step) : Act Result := do
  announce context Phase.opening (.step step none)
  let (children, error) ← runDirectives context chain step.directives
  let result : Result := { name := step.name, error, children }
  announce context Phase.closing (.step step (some result))
  return result

/-- Runs steps one after another. -/
def runSteps (context : Context) (chain : List String) : List Step → Act (List Result)
  | [] => return []
  | step :: rest => do
      let result ← runStep context chain step
      return result :: (← runSteps context chain rest)

end Act

end Rehearsal
