import Rehearsal.Pattern.Reader
import Rehearsal.Pattern.Search

/-!
Regular expressions: patterns are read from a text, searched in a text, and give the texts of
their named groups.
-/

namespace Rehearsal

/-- A regular expression. -/
structure Pattern where
  /-- The text that it was read from. -/
  source : String
  node : Pattern.Node
  /-- The names of its groups, in the order of their opening brackets. -/
  groupNames : List String
deriving DecidableEq, Repr, Inhabited

namespace Pattern

/-- Reads a pattern; a caseless one disregards letter case unless its flags say otherwise. -/
def ofText (caseless : Bool) (source : String) : Except PatternError Pattern := do
  let (expr, groupNames) ← Reader.read source.toList
  let built ← build { caseless } expr
  return { source, node := built.node, groupNames }

/-- What a search has found: the captured texts by name. -/
structure Match where
  captures : List (String × String)
deriving DecidableEq, Repr

/-- The text that a match captured under a name. -/
def Match.captured? (found : Match) (name : String) : Option String :=
  (found.captures.find? fun capture => capture.1 == name).map Prod.snd

/-- The match that a thread found. -/
def Match.ofThread (text : List Char) (thread : Thread) : Match where
  captures := thread.captures.map fun (name, start, stop) =>
    (name, String.ofList ((text.drop start).take (stop - start)))

/-- Searches a text for the pattern. -/
def search (pattern : Pattern) (text : String) : Option Match :=
  (pattern.node.search text.toList).map (Match.ofThread text.toList)

/-- Whether the pattern occurs in a text. -/
def occursIn (pattern : Pattern) (text : String) : Bool :=
  (pattern.node.search text.toList).isSome

end Pattern

end Rehearsal
