/-!
The faults of a TOML text.
-/

namespace Rehearsal.Toml

/-- What can be wrong with a TOML text. -/
inductive Fault where
  | character
  | escape
  | unclosed
  | key
  | value
  | lineEnd
  | duplicateKey
  | extension
  | depth
  | size
  | type
deriving DecidableEq, Repr

/-- A mark in place of the words for a fault of a TOML text. How the reader of such texts words its
faults is left out, so all of them have the same mark. -/
def Fault.message (_ : Fault) : String :=
  "<toml error>"

end Rehearsal.Toml
