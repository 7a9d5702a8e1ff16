/-!
Places in a YAML text: what is left of the text, with the number of characters, the line and the
column before it.
-/

namespace Rehearsal.Yaml

/-- Whether a character breaks a line. -/
def isBreak (c : Char) : Bool :=
  c == '\n' || c == '\r' || c == '\u0085' || c == '\u2028' || c == '\u2029'

/-- Whether a character is a space or a tab. -/
def isBlank (c : Char) : Bool :=
  c == ' ' || c == '\t'

/-- Whether a character may stand in the name of an anchor, a tag handle or a directive. -/
def isNameChar (c : Char) : Bool :=
  c.isAlphanum || c == '_' || c == '-'

/-- Whether a text may hold a character. -/
def isAllowed (c : Char) : Bool :=
  let point := c.toNat
  point == 0x9 || point == 0xA || point == 0xD || (0x20 ≤ point && point ≤ 0x7E) || point == 0x85
    || (0xA0 ≤ point && point ≤ 0xD7FF) || (0xE000 ≤ point && point ≤ 0xFFFD) || 0x10000 ≤ point

/-- A place in a text. -/
structure Cursor where
  rest : List Char
  index : Nat := 0
  line : Nat := 0
  column : Nat := 0

namespace Cursor

/-- The character some characters ahead. -/
def peek? (cursor : Cursor) (ahead : Nat) : Option Char :=
  cursor.rest[ahead]?

/-- Whether the next character is a given one. -/
def sees (cursor : Cursor) (c : Char) : Bool :=
  cursor.rest.head? == some c

/-- Whether the next character is of a class. -/
def seesAny (cursor : Cursor) (kind : Char → Bool) : Bool :=
  cursor.rest.head?.any kind

/-- Whether the text has ended. -/
def atEnd (cursor : Cursor) : Bool :=
  cursor.rest.isEmpty

/-- Whether a blank, a line break or the end stands some characters ahead. -/
def gapAt (cursor : Cursor) (ahead : Nat) : Bool :=
  (cursor.peek? ahead).all fun c => isBlank c || isBreak c

/-- Whether a line break or the end stands here. -/
def atLineEnd (cursor : Cursor) : Bool :=
  cursor.rest.head?.all isBreak

/-- The place some characters further in the same line. -/
def skip (cursor : Cursor) (count : Nat) : Cursor where
  rest := cursor.rest.drop count
  index := cursor.index + count
  line := cursor.line
  column := cursor.column + count

/-- The characters of a class that stand here, and the place behind them. -/
def takeWhile (cursor : Cursor) (kind : Char → Bool) : List Char × Cursor :=
  let taken := cursor.rest.takeWhile kind
  (taken, cursor.skip taken.length)

/-- The place behind the characters of a class. -/
def skipWhile (cursor : Cursor) (kind : Char → Bool) : Cursor :=
  (cursor.takeWhile kind).2

/-- The line break that stands here, as it is read, and the place behind it. Only the two Unicode
separators are read as themselves. -/
def takeBreak (cursor : Cursor) : List Char × Cursor :=
  let behind (count : Nat) : Cursor :=
    { rest := cursor.rest.drop count, index := cursor.index + count, line := cursor.line + 1 }
  match cursor.rest with
  | '\r' :: '\n' :: _ => (['\n'], behind 2)
  | c :: _ =>
      if c == '\u2028' || c == '\u2029' then ([c], behind 1)
      else if isBreak c then (['\n'], behind 1)
      else ([], cursor)
  | [] => ([], cursor)

/-- The place behind a line break that may stand here. -/
def skipBreak (cursor : Cursor) : Cursor :=
  cursor.takeBreak.2

/-- The place behind a comment that may stand here. -/
def skipComment (cursor : Cursor) : Cursor :=
  if cursor.sees '#' then cursor.skipWhile fun c => !isBreak c else cursor

/-- Whether a mark of three equal characters opens the line and stands alone. -/
def seesMark (cursor : Cursor) (c : Char) : Bool :=
  cursor.column == 0 && cursor.rest.take 3 == [c, c, c] && cursor.gapAt 3

/-- Whether a mark of a document's start or end stands here. -/
def seesDocumentMark (cursor : Cursor) : Bool :=
  cursor.seesMark '-' || cursor.seesMark '.'

end Cursor

end Rehearsal.Yaml
