/-!
The reading of a captured argument: a text in square brackets names a variable, and one pair of
surrounding delimiters is dropped from any other text.
-/

namespace Rehearsal

/-- What a captured text stands for. -/
inductive Capture where
  /-- The value of a variable. -/
  | variable (name : String)
  /-- The text itself. -/
  | literal (text : String)
deriving DecidableEq, Repr

namespace Capture

/-- The characters that may surround an argument. -/
def isDelimiter (c : Char) : Bool :=
  c == '"' || c == '\'' || c == '[' || c == ']'

/-- Whether a text opens with a square bracket and closes with another. -/
def isReference (raw : String) : Bool :=
  match raw.toList with
  | '[' :: rest => rest.getLast? == some ']'
  | _ => false

/-- Drops the first and the last character if both are delimiters; the two need not match. -/
def unquote (raw : String) : String :=
  match raw.toList with
  | first :: second :: rest =>
      let tail := second :: rest
      if isDelimiter first && tail.getLast?.any isDelimiter then String.ofList tail.dropLast
      else raw
  | _ => raw

/-- Reads a captured text. -/
def ofRaw (raw : String) : Capture :=
  if isReference raw then .variable (unquote raw) else .literal (unquote raw)

end Capture

end Rehearsal
