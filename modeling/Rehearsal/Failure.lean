import Rehearsal.Variables

/-!
What can go wrong with one node of a run, in seventeen kinds. Failures are causes with their
facts; `Failure.message` words them and `Failure.reason` classifies them for a summary.
-/

namespace Rehearsal

/-- The kinds of failure, as used to declare an expected one. -/
inductive FailureKind where
  | elementNotFound
  | staleElement
  | noSuchWindow
  | noAlertPresent
  | assertion
  | returnedFalse
  | expectedErrorNotRaised
  | noHandler
  | reservedCapture
  | undefinedVariable
  | immutableAccess
  | unknownTask
  | unknownEnvironment
  | prerequisiteCycle
  | stepAborted
  | driver
  | other
deriving DecidableEq, Repr

namespace FailureKind

/-- All kinds. -/
def all : List FailureKind :=
  [elementNotFound, staleElement, noSuchWindow, noAlertPresent, assertion, returnedFalse,
    expectedErrorNotRaised, noHandler, reservedCapture, undefinedVariable, immutableAccess,
    unknownTask, unknownEnvironment, prerequisiteCycle, stepAborted, driver, other]

/-- The name of a kind in messages. -/
def name : FailureKind → String
  | elementNotFound => "ElementNotFound"
  | staleElement => "StaleElement"
  | noSuchWindow => "NoSuchWindow"
  | noAlertPresent => "NoAlertPresent"
  | assertion => "Assertion"
  | returnedFalse => "ReturnedFalse"
  | expectedErrorNotRaised => "ExpectedErrorNotRaised"
  | noHandler => "NoHandler"
  | reservedCapture => "ReservedCapture"
  | undefinedVariable => "UndefinedVariable"
  | immutableAccess => "ImmutableAccess"
  | unknownTask => "UnknownTask"
  | unknownEnvironment => "UnknownEnvironment"
  | prerequisiteCycle => "PrerequisiteCycle"
  | stepAborted => "StepAborted"
  | driver => "Driver"
  | other => "Other"

/-- The tag of a kind in reports. -/
def tag : FailureKind → String
  | elementNotFound => "element_not_found"
  | staleElement => "stale_element"
  | noSuchWindow => "no_such_window"
  | noAlertPresent => "no_alert_present"
  | assertion => "assertion"
  | returnedFalse => "returned_false"
  | expectedErrorNotRaised => "expected_error_not_raised"
  | noHandler => "no_handler"
  | reservedCapture => "reserved_capture"
  | undefinedVariable => "undefined_variable"
  | immutableAccess => "immutable_access"
  | unknownTask => "unknown_task"
  | unknownEnvironment => "unknown_environment"
  | prerequisiteCycle => "prerequisite_cycle"
  | stepAborted => "step_aborted"
  | driver => "driver"
  | other => "other"

/-- The kind with a given tag. -/
def ofTag? (text : String) : Option FailureKind :=
  all.find? fun kind => kind.tag == text

/-- A kind is found again under its tag. -/
theorem ofTag?_tag (kind : FailureKind) : ofTag? kind.tag = some kind := by
  cases kind <;> rfl

end FailureKind

/-- A failure recorded at some node of a run. -/
inductive Failure where
  | elementNotFound (selector : String)
  | staleElement (message : String)
  | noSuchWindow (message : String)
  | noAlertPresent
  | assertion (message : String)
  | returnedFalse
  | expectedErrorNotRaised (expected : FailureKind) (received : Option String)
  | noHandler (directive : String)
  | reservedCapture (name : String)
  | undefinedVariable (name : String)
  | immutableAccess (key : String)
  | unknownTask (name : String)
  | unknownEnvironment (environment : String)
  | prerequisiteCycle (name : String)
  | stepAborted (directive cause : String)
  | driver (message : String)
  | other (errorType message : String)
deriving DecidableEq, Repr

namespace Failure

/-- The kind of a failure. -/
def kind : Failure → FailureKind
  | elementNotFound _ => .elementNotFound
  | staleElement _ => .staleElement
  | noSuchWindow _ => .noSuchWindow
  | noAlertPresent => .noAlertPresent
  | assertion _ => .assertion
  | returnedFalse => .returnedFalse
  | expectedErrorNotRaised _ _ => .expectedErrorNotRaised
  | noHandler _ => .noHandler
  | reservedCapture _ => .reservedCapture
  | undefinedVariable _ => .undefinedVariable
  | immutableAccess _ => .immutableAccess
  | unknownTask _ => .unknownTask
  | unknownEnvironment _ => .unknownEnvironment
  | prerequisiteCycle _ => .prerequisiteCycle
  | stepAborted _ _ => .stepAborted
  | driver _ => .driver
  | other _ _ => .other

/-- The wording of a failure. -/
def message : Failure → String
  | elementNotFound selector => "no element found for '" ++ selector ++ "'"
  | staleElement text => "stale element reference: " ++ text
  | noSuchWindow text => "no such window: " ++ text
  | noAlertPresent => "no alert present"
  | assertion text => text
  | returnedFalse => "directive returned false"
  | expectedErrorNotRaised expected received =>
      "expected " ++ expected.name ++ " to be raised, got " ++ received.getD "no error"
  | noHandler directive => "no handler found for directive '" ++ directive ++ "'"
  | reservedCapture name => "capture group '" ++ name ++ "' is reserved for the driver handle"
  | undefinedVariable name => "variable '" ++ name ++ "' is not defined in any scope"
  | immutableAccess key => "variable '" ++ key ++ "' is immutable"
  | unknownTask name => "task '" ++ name ++ "' is not registered"
  | unknownEnvironment environment =>
      "no driver registered for environment '" ++ environment ++ "'"
  | prerequisiteCycle name => "execute prerequisite '" ++ name ++ "' is already running"
  | stepAborted directive cause => "step aborted at '" ++ directive ++ "': " ++ cause
  | driver text => "driver error: " ++ text
  | other errorType text => errorType ++ ": " ++ text

/-- A failure of the suite's own set-up: it ends the enclosing step, where any other failure
lets the step go on. -/
def isConfiguration (failure : Failure) : Bool :=
  match failure.kind with
  | .noHandler | .reservedCapture | .undefinedVariable | .immutableAccess => true
  | _ => false

/-- The reason that a summary gives for a failure. -/
def reason (failure : Failure) : String :=
  match failure with
  | elementNotFound _ => "Element to check was not found. (" ++ failure.message ++ ")"
  | assertion text => "Expectation not met. (" ++ text ++ ")"
  | expectedErrorNotRaised _ _ => "Expected an error, but didn't receive one."
  | _ => "Exception caught. (" ++ failure.kind.name ++ ": " ++ failure.message ++ ")"

/-- A refused write, as a failure. -/
def ofFrozenWrite (refusal : FrozenWrite) : Failure :=
  immutableAccess refusal.key

/-- The wording of a chain of causes: the outermost context first, the root cause last. -/
def chainText (outermostFirst : List String) : String :=
  ": ".intercalate outermostFirst

/-- A chain of causes, as a failure. -/
def ofChain (outermostFirst : List String) : Failure :=
  other "Error" (chainText outermostFirst)

end Failure

end Rehearsal
