import Rehearsal.Variables
import Rehearsal.Yaml.Fault

/-!
What can be wrong with the document of a task or of plans, and where in the document it is.
-/

namespace Rehearsal.Document

/-- A part of a document that a fault lies in. -/
inductive Place where
  /-- The content of a key. -/
  | key (key : String)
  /-- An entry of the list under a key. -/
  | entryOf (key : String)
  | glossary
  /-- A step by its number, counted from one. -/
  | stepNumber (number : Nat)
  | stepNamed (name : String)
  /-- A plan by its number, counted from one. -/
  | planNumber (number : Nat)
  | planNamed (name : String)
deriving DecidableEq, Repr

/-- The wording of a place. -/
def Place.text : Place → String
  | key name => "key '" ++ name ++ "'"
  | entryOf name => "'" ++ name ++ "' entry"
  | glossary => "glossary entries must be unique"
  | stepNumber number => "step #" ++ toString number
  | stepNamed name => "step '" ++ name ++ "'"
  | planNumber number => "plan #" ++ toString number
  | planNamed name => "plan '" ++ name ++ "'"

/-- A fault of a document. -/
inductive Fault where
  | invalid (fault : Yaml.Fault)
  | notATask
  | notPlans
  | notAPlan
  | missingKey (key : String)
  /-- A plan that does not say what to run. -/
  | missingTasks (plan : String)
  | notAScalar
  | notAList (key : String)
  | notBindings (key : String)
  | notPrerequisites
  | notSteps
  | notDirectives (step : String)
  /-- Something else than a mapping where one with a single key is wanted. -/
  | notAnEntry
  /-- A mapping of another number of keys. -/
  | notSingle (size : Nat)
  | frozen (refusal : FrozenWrite)
  | within (place : Place) (fault : Fault)
deriving DecidableEq, Repr

/-- The wording of a fault, from the outermost place inwards. -/
def Fault.message : Fault → String
  | invalid fault => "invalid yaml: " ++ fault.message
  | notATask => "task file must be a mapping"
  | notPlans => "plan file must be a list of plans"
  | notAPlan => "plan must be a mapping"
  | missingKey key => "missing required key '" ++ key ++ "'"
  | missingTasks plan => "plan '" ++ plan ++ "' is missing required key 'tasks'"
  | notAScalar => "expected a scalar value"
  | notAList key => "'" ++ key ++ "' must be a list"
  | notBindings key => "'" ++ key ++ "' must be a list of single-key maps"
  | notPrerequisites => "'prerequisites' must be a mapping"
  | notSteps => "'steps' must be a list"
  | notDirectives step => "step '" ++ step ++ "' must map to a list of directives"
  | notAnEntry => "expected a single-key map"
  | notSingle size => "expected a single-key map, found " ++ toString size ++ " keys"
  | frozen refusal => refusal.message
  | within place fault => place.text ++ ": " ++ fault.message

/-- A reading whose faults lie in a place. -/
def inPlace {α : Type} (place : Place) (read : Except Fault α) : Except Fault α :=
  read.mapError (.within place)

end Rehearsal.Document
