import Rehearsal.Toml.Fault

/-!
Reading a TOML text from left to right: blanks, comments and line ends.
-/

namespace Rehearsal.Toml

/-- A reading that takes characters from what is left of a text. -/
abbrev Reading := StateT (List Char) (Except Fault)

/-- Whether a character is a space or a tab. -/
def isSpace (c : Char) : Bool :=
  c == ' ' || c == '\t'

/-- Whether a character may stand in a comment or a string. -/
def isPrintable (c : Char) : Bool :=
  c == '\t' || (' ' ≤ c && c != '\x7f')

/-- What is left behind a line break that stands here. -/
def lineBreak? : List Char → Option (List Char)
  | '\n' :: rest => some rest
  | '\r' :: '\n' :: rest => some rest
  | _ => none

/-- What is left behind a comment that may stand here. -/
def dropComment (text : List Char) : List Char :=
  match text with
  | '#' :: rest => rest.dropWhile isPrintable
  | _ => text

/-- What is left behind blanks, comments and line breaks. -/
def dropLines : Nat → List Char → List Char
  | 0, text => text
  | fuel + 1, text =>
      let text := dropComment (text.dropWhile isSpace)
      match lineBreak? text with
      | some rest => dropLines fuel rest
      | none => text

/-- Passes over blanks. -/
def skipSpaces : Reading Unit :=
  modify fun text => text.dropWhile isSpace

/-- Passes over blanks, comments and line breaks. -/
def skipLines : Reading Unit :=
  modify fun text => dropLines (text.length + 1) text

/-- Takes some characters that are known to be there. -/
def skip (count : Nat) : Reading Unit :=
  modify fun text => text.drop count

/-- Takes the characters of a class that stand here. -/
def takeWhile (kind : Char → Bool) : Reading (List Char) :=
  modifyGet fun text => (text.takeWhile kind, text.dropWhile kind)

/-- Passes over the end of a line, before which only a comment may stand. -/
def endLine : Reading Unit := do
  skipSpaces
  let text := dropComment (← get)
  match lineBreak? text with
  | some rest => set rest
  | none => if text.isEmpty then set text else throw .lineEnd

end Rehearsal.Toml
