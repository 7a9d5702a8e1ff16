/-!
The faults of a YAML text.
-/

namespace Rehearsal.Yaml

/-- What can be wrong with a YAML text. -/
inductive Fault where
  | character
  | indicator
  | tab
  | indentation
  | keyExpected
  | keyRefused
  | escape
  | unclosed
  | documentMark
  | blockHeader
  | anchorName
  | tagText
  | unknownHandle
  | directive
  | content
  | trailing
  | unknownAnchor
  | repetition
  | depth
  | scalarType
  | duplicateKey
deriving DecidableEq, Repr

/-- A mark in place of the words for a fault of a YAML text. How the reader of such texts words its
faults is left out, so all of them have the same mark. -/
def Fault.message (_ : Fault) : String :=
  "<yaml error>"

end Rehearsal.Yaml
