/-!
Splitting a text at every occurrence of a separator.
-/

namespace Rehearsal.Text

/-- Splits a text at a separator; a text without one is its own only part. -/
def splitAt (separator : Char) (text : List Char) : List (List Char) :=
  match text with
  | [] => [[]]
  | c :: rest =>
      if c = separator then [] :: splitAt separator rest
      else
        match splitAt separator rest with
        | [] => [[c]]
        | part :: parts => (c :: part) :: parts

end Rehearsal.Text
