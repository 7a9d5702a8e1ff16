import Rehearsal.Variables

/-!
Nested frames of variables. Reading and writing act on the innermost frame that holds the name;
the outermost frame always stays.
-/

namespace Rehearsal

/-- A stack of frames over one outermost frame. -/
structure Scope where
  /-- The frames above the outermost one, innermost first. -/
  inner : List Variables := []
  outermost : Variables := ∅
deriving DecidableEq

namespace Scope

/-- The frames from the innermost to the outermost. -/
def frames (scope : Scope) : List Variables :=
  scope.inner ++ [scope.outermost]

/-- The number of frames. -/
def depth (scope : Scope) : Nat :=
  scope.inner.length + 1

/-- The text that the innermost holder of a name binds to it. -/
def get? (scope : Scope) (key : String) : Option String :=
  (scope.frames.find? fun frame => frame.contains key).bind fun frame => frame.get? key

/-- Enters a frame. -/
def push (scope : Scope) (frame : Variables) : Scope :=
  { scope with inner := frame :: scope.inner }

/-- Takes off the innermost frame; the outermost one is never taken off. -/
def pop (scope : Scope) : Option (Variables × Scope) :=
  match scope.inner with
  | [] => none
  | frame :: rest => some (frame, { scope with inner := rest })

/-- Leaves the innermost frame, which is taken off if one can be. -/
def leave (scope : Scope) : Scope :=
  match scope.pop with
  | some (_, outer) => outer
  | none => scope

/-- The names of a frame that frames of the scope hold too, in increasing order. -/
def shadowed (scope : Scope) (frame : Variables) : List String :=
  let hidden := frame.keys.filter fun key => scope.frames.any fun outer => outer.contains key
  (Dict.ofList (hidden.map fun key => (key, ()))).keys

/-- Writes to the first frame of a list that holds the name; `none` if no frame does. -/
def setFirst (key value : String) : List Variables → Except FrozenWrite (Option (List Variables))
  | [] => .ok none
  | frame :: rest =>
      if frame.contains key then do
        return some ((← frame.set key value) :: rest)
      else do
        return (← setFirst key value rest).map (frame :: ·)

/-- Writes a name in its innermost holder; `none` if no frame holds it. -/
def set? (scope : Scope) (key value : String) : Except FrozenWrite (Option Scope) := do
  match ← setFirst key value scope.inner with
  | some inner => return some { scope with inner }
  | none =>
      if scope.outermost.contains key then
        return some { scope with outermost := ← scope.outermost.set key value }
      else
        return none

end Scope

end Rehearsal
