import Rehearsal.Dict

/-!
One frame of named texts. A name is either rebindable or frozen: freezing is final, and every
later write to a frozen name is refused.
-/

namespace Rehearsal

/-- The refusal to write to a frozen variable. -/
structure FrozenWrite where
  key : String
deriving DecidableEq, Repr

/-- The wording of a refused write. -/
def FrozenWrite.message (refusal : FrozenWrite) : String :=
  "variable '" ++ refusal.key ++ "' is immutable"

/-- A frame of variables: the rebindable ones and the frozen ones. -/
structure Variables where
  free : Dict String := ∅
  frozen : Dict String := ∅
deriving DecidableEq

namespace Variables

instance : EmptyCollection Variables := ⟨{}⟩

instance : Inhabited Variables := ⟨∅⟩

/-- The text bound to a name; a rebindable binding is consulted first. -/
def get? (frame : Variables) (key : String) : Option String :=
  (frame.free.get? key).or (frame.frozen.get? key)

/-- Whether the frame holds a name. -/
def contains (frame : Variables) (key : String) : Bool :=
  frame.free.contains key || frame.frozen.contains key

/-- Whether a name is frozen. -/
def isFrozen (frame : Variables) (key : String) : Bool :=
  frame.frozen.contains key

/-- Binds a name, unless it is frozen. -/
def set (frame : Variables) (key value : String) : Except FrozenWrite Variables :=
  if frame.isFrozen key then .error ⟨key⟩
  else .ok { frame with free := frame.free.insert key value }

/-- Freezes a name at a text and drops its rebindable binding; a second freezing is refused. -/
def freeze (frame : Variables) (key value : String) : Except FrozenWrite Variables :=
  if frame.isFrozen key then .error ⟨key⟩
  else .ok ⟨frame.free.erase key, frame.frozen.insert key value⟩

/-- The held names: the rebindable ones in order, then the frozen ones in order. -/
def keys (frame : Variables) : List String :=
  frame.free.keys ++ frame.frozen.keys

/-- The bindings in the order of `keys`, each with whether it is frozen. -/
def bindings (frame : Variables) : List (String × String × Bool) :=
  frame.free.bindings.map (fun binding => (binding.1, binding.2, false))
    ++ frame.frozen.bindings.map (fun binding => (binding.1, binding.2, true))

/-- The number of bindings. -/
def size (frame : Variables) : Nat :=
  frame.free.size + frame.frozen.size

/-- Sets the first bindings and then freezes the second ones, each from left to right; stops at
the first refusal. -/
def ofLists (settings freezings : List (String × String)) : Except FrozenWrite Variables := do
  let settled ← settings.foldlM (fun frame binding => frame.set binding.1 binding.2) ∅
  freezings.foldlM (fun frame binding => frame.freeze binding.1 binding.2) settled

end Variables

end Rehearsal
