import Rehearsal.Failure

/-!
The tree of results of a run. A node stands for a plan, a task, a step or a directive, and its
children are in the order in which they ended.
-/

namespace Rehearsal

/-- A node of the result tree. -/
structure Result where
  name : String
  error : Option Failure := none
  children : List Result := []
deriving Inhabited, Repr

namespace Result

/-- A childless node with a failure. -/
def failed (name : String) (failure : Failure) : Result :=
  { name, error := some failure }

/-- Adds a child after the others. -/
def push (result child : Result) : Result :=
  { result with children := result.children ++ [child] }

/-- The most recent child with a name. -/
def child? (result : Result) (name : String) : Option Result :=
  result.children.reverse.find? fun child => child.name == name

/-- Whether the node itself carries a failure. -/
def isFailed (result : Result) : Bool :=
  result.error.isSome

mutual

/-- Whether the node or a node below it carries a failure. -/
def hasFailure : Result → Bool
  | ⟨_, error, children⟩ => error.isSome || anyFailure children

/-- Whether one of several trees holds a failure. -/
def anyFailure : List Result → Bool
  | [] => false
  | result :: rest => hasFailure result || anyFailure rest

end

end Result

end Rehearsal
