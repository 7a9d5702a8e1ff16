import Rehearsal.Text.CharSet
import Rehearsal.Yaml.Cursor
import Rehearsal.Yaml.Fault

/-!
The three ways to write a scalar: plain, in quotation marks, and as an indented block. A single
line break inside a scalar folds into a space, and further ones are kept.
-/

namespace Rehearsal.Yaml

/-- What stands between two pieces of a scalar: blanks within a line, or line breaks. -/
structure Gap where
  blanks : List Char := []
  /-- Whether the line was left. -/
  broken : Bool := false
  /-- The first line break, unless it was escaped. -/
  first : List Char := []
  /-- The line breaks after the first. -/
  more : List Char := []

namespace Gap

/-- The text of a gap. -/
def text (gap : Gap) : List Char :=
  if !gap.broken then gap.blanks
  else if gap.first == ['\n'] then if gap.more.isEmpty then [' '] else gap.more
  else gap.first ++ gap.more

/-- Reads a gap to its end. Where a least column is given, no tab may stand before it in a
further line. -/
def scan (leastColumn : Option Int) : Nat → Gap → Cursor → Except Fault (Gap × Cursor)
  | 0, gap, cursor => .ok (gap, cursor)
  | fuel + 1, gap, cursor =>
      if cursor.seesAny isBlank then
        let outdented := leastColumn.any fun least : Int => decide ((cursor.column : Int) < least)
        if gap.broken && cursor.sees '\t' && outdented then .error .tab
        else
          let blanks := if gap.broken then gap.blanks else gap.blanks ++ cursor.rest.take 1
          scan leastColumn fuel { gap with blanks } (cursor.skip 1)
      else if cursor.seesAny isBreak then
        let (lineBreak, next) := cursor.takeBreak
        if gap.broken then scan leastColumn fuel { gap with more := gap.more ++ lineBreak } next
        else scan leastColumn fuel { broken := true, first := lineBreak } next
      else .ok (gap, cursor)

end Gap

/-- The indicators that a plain scalar may not hold inside brackets. -/
def isFlowIndicator (c : Char) : Bool :=
  c == ',' || c == '[' || c == ']' || c == '\x7b' || c == '\x7d'

/-- Reads a piece of a plain scalar up to a blank, a line break or an indicator. -/
def plainPiece (inFlow : Bool) : Nat → List Char → Cursor → Except Fault (List Char × Cursor)
  | 0, read, cursor => .ok (read, cursor)
  | fuel + 1, read, cursor =>
      match cursor.rest with
      | [] => .ok (read, cursor)
      | c :: rest =>
          if isBlank c || isBreak c then .ok (read, cursor)
          else if inFlow && c == ':' && rest.head?.any (fun d => isFlowIndicator d || d == '?') then
            .error .indicator
          else if c == ':' && cursor.gapAt 1 || inFlow && isFlowIndicator c then
            .ok (read, cursor)
          else plainPiece inFlow fuel (read ++ [c]) (cursor.skip 1)

/-- Reads a plain scalar from its first piece on. Also tells whether line breaks follow it. -/
def plainFrom (inFlow : Bool) (leastColumn : Int)
    : Nat → List Char → Gap → Cursor → Except Fault (List Char × Bool × Cursor)
  | 0, read, gap, cursor => .ok (read, gap.broken, cursor)
  | fuel + 1, read, gap, cursor => do
      if cursor.seesDocumentMark || cursor.sees '#' then return (read, gap.broken, cursor)
      let (piece, next) ← plainPiece inFlow (cursor.rest.length + 1) [] cursor
      let (read, gap) := if piece.isEmpty then (read, gap) else (read ++ gap.text ++ piece, {})
      if !next.seesAny (fun c => isBlank c || isBreak c) then return (read, gap.broken, next)
      let (gap, next) ← gap.scan (some leastColumn) (next.rest.length + 1) next
      if !inFlow && next.column < leastColumn then return (read, gap.broken, next)
      plainFrom inFlow leastColumn fuel read gap next

/-- Reads a plain scalar. -/
def plain (inFlow : Bool) (leastColumn : Int) (cursor : Cursor)
    : Except Fault (List Char × Bool × Cursor) :=
  plainFrom inFlow leastColumn (cursor.rest.length + 1) [] {} cursor

/-- The character that a letter after a backslash stands for. -/
def escaped? (c : Char) : Option Char :=
  match c with
  | '0' => some '\x00'
  | 'a' => some '\x07'
  | 'b' => some '\x08'
  | 't' | '\t' => some '\t'
  | 'n' => some '\n'
  | 'v' => some '\x0b'
  | 'f' => some '\x0c'
  | 'r' => some '\r'
  | 'e' => some '\x1b'
  | ' ' | '"' | '/' | '\\' => some c
  | 'N' => some '\u0085'
  | '_' => some '\u00a0'
  | 'L' => some '\u2028'
  | 'P' => some '\u2029'
  | _ => none

/-- The number of hexadecimal digits after a letter that announces a code point. -/
def escapeLength? (c : Char) : Option Nat :=
  match c with
  | 'x' => some 2
  | 'u' => some 4
  | 'U' => some 8
  | _ => none

/-- Reads an escape sequence. -/
def escapeSequence (cursor : Cursor) : Except Fault (Char × Cursor) :=
  match cursor.peek? 1 with
  | none => .error .escape
  | some c =>
      match escaped? c, escapeLength? c with
      | some read, _ => .ok (read, cursor.skip 2)
      | none, some length =>
          let digits := (cursor.rest.drop 2).take length
          let point := CharSet.hexNumber digits
          if digits.length < length || digits.any (fun d => (CharSet.hexValue? d).isNone) then
            .error .escape
          else if (0xD800 ≤ point && point ≤ 0xDFFF) || 0x10FFFF < point then .error .escape
          else .ok (Char.ofNat point, cursor.skip (2 + length))
      | none, none => .error .escape

/-- Reads a piece of a quoted scalar up to a blank, a line break or the closing mark. Also tells
whether an escaped line break ends it. -/
def quotedPiece (single : Bool)
    : Nat → List Char → Cursor → Except Fault (List Char × Bool × Cursor)
  | 0, read, cursor => .ok (read, false, cursor)
  | fuel + 1, read, cursor =>
      match cursor.rest with
      | [] => .ok (read, false, cursor)
      | c :: rest =>
          if isBlank c || isBreak c then .ok (read, false, cursor)
          else if single && c == '\'' && rest.head? == some '\'' then
            quotedPiece single fuel (read ++ ['\'']) (cursor.skip 2)
          else if c == (if single then '\'' else '"') then .ok (read, false, cursor)
          else if !single && c == '\\' then
            if rest.head?.any isBreak then .ok (read, true, (cursor.skip 1).skipBreak)
            else
              match escapeSequence cursor with
              | .ok (char, next) => quotedPiece single fuel (read ++ [char]) next
              | .error fault => .error fault
          else quotedPiece single fuel (read ++ [c]) (cursor.skip 1)

/-- Reads a quoted scalar behind its opening mark. -/
def quotedFrom (single : Bool) : Nat → List Char → Cursor → Except Fault (List Char × Cursor)
  | 0, _, _ => .error .unclosed
  | fuel + 1, read, cursor => do
      if cursor.seesDocumentMark then throw .documentMark
      if cursor.atEnd then throw .unclosed
      let (piece, escapedBreak, next) ← quotedPiece single (cursor.rest.length + 1) [] cursor
      let read := read ++ piece
      if next.sees (if single then '\'' else '"') then return (read, next.skip 1)
      let (gap, next) ←
        Gap.scan none (next.rest.length + 1) { broken := escapedBreak } next
      quotedFrom single fuel (read ++ gap.text) next

/-- Reads a quoted scalar with its marks. -/
def quoted (single : Bool) (cursor : Cursor) : Except Fault (List Char × Cursor) :=
  quotedFrom single (cursor.rest.length + 2) [] (cursor.skip 1)

/-- What becomes of the line breaks at the end of a block. -/
inductive Chomping where
  | strip
  | clip
  | keep
deriving DecidableEq, Repr

/-- Reads an indicator of chomping. -/
def chomping? (cursor : Cursor) : Option Chomping :=
  if cursor.sees '+' then some .keep
  else if cursor.sees '-' then some .strip
  else none

/-- Reads an indicator of indentation. -/
def indentation? (cursor : Cursor) : Except Fault (Option Nat) :=
  match cursor.rest with
  | c :: _ =>
      if c == '0' then .error .blockHeader
      else if c.isDigit then .ok (some (c.toNat - 48))
      else .ok none
  | [] => .ok none

/-- Reads the indicators of a block in either order. -/
def blockIndicators (cursor : Cursor) : Except Fault (Chomping × Option Nat × Cursor) := do
  match chomping? cursor with
  | some chomping =>
      let next := cursor.skip 1
      match ← indentation? next with
      | some increment => return (chomping, some increment, next.skip 1)
      | none => return (chomping, none, next)
  | none =>
      match ← indentation? cursor with
      | none => return (.clip, none, cursor)
      | some increment =>
          let next := cursor.skip 1
          match chomping? next with
          | some chomping => return (chomping, some increment, next.skip 1)
          | none => return (.clip, some increment, next)

/-- The indentation of a block; until it is known, the greatest one seen in empty lines. -/
structure BlockIndent where
  known : Option Nat
  seen : Nat := 0

/-- Reads the indentation and the empty lines before a line of a block. -/
def blockBreaks : Nat → BlockIndent → List Char → Cursor
    → Except Fault (BlockIndent × List Char × Cursor)
  | 0, indent, breaks, cursor => .ok (indent, breaks, cursor)
  | fuel + 1, indent, breaks, cursor =>
      let wanted (column : Nat) : Bool := indent.known.all fun known => column < known
      let spaces := cursor.rest.takeWhile (· == ' ')
      let count :=
        match indent.known with
        | some known => min spaces.length (known - cursor.column)
        | none => spaces.length
      let cursor := cursor.skip count
      let indent := { indent with seen := max indent.seen cursor.column }
      if wanted cursor.column && cursor.sees '\t' then .error .tab
      else if cursor.seesAny isBreak then
        let (lineBreak, next) := cursor.takeBreak
        blockBreaks fuel indent (breaks ++ lineBreak) next
      else .ok (indent, breaks, cursor)

/-- What has been read of a block. -/
structure BlockText where
  text : List Char := []
  /-- The line break behind the last line. -/
  lastBreak : List Char := []
  /-- The empty lines behind it. -/
  empty : List Char
  /-- Whether the last line began with a blank. -/
  indented : Bool := false

/-- The text up to a further line, whose first character is a blank or not. -/
def BlockText.joined (block : BlockText) (literal blank : Bool) : List Char :=
  if !literal && block.lastBreak == ['\n'] && !block.indented && !blank then
    block.text ++ (if block.empty.isEmpty then [' '] else []) ++ block.empty
  else block.text ++ block.lastBreak ++ block.empty

/-- Reads the lines of a block. -/
def blockLines (literal : Bool) (indent : Nat)
    : Nat → BlockText → Cursor → Except Fault (BlockText × Cursor)
  | 0, block, cursor => .ok (block, cursor)
  | fuel + 1, block, cursor => do
      if cursor.column != indent || cursor.atEnd then return (block, cursor)
      let blank := cursor.seesAny isBlank
      let (line, next) := cursor.takeWhile fun c => !isBreak c
      let (lastBreak, next) := next.takeBreak
      let (_, empty, next) ← blockBreaks (next.rest.length + 1) { known := some indent } [] next
      let text := block.joined literal blank ++ line
      blockLines literal indent fuel { text, lastBreak, empty, indented := blank } next

/-- Reads a block scalar with its header. The indentation is deeper than that of what holds it. -/
def block (literal : Bool) (parent : Int) (cursor : Cursor)
    : Except Fault (List Char × Cursor) := do
  let (chomping, increment, next) ← blockIndicators (cursor.skip 1)
  let next := (next.skipWhile isBlank).skipComment
  if !next.atLineEnd then throw .blockHeader
  let next := next.skipBreak
  let known := increment.map fun increment =>
    if 0 ≤ parent then parent.toNat + increment else increment
  let (found, empty, next) ← blockBreaks (next.rest.length + 1) { known } [] next
  let indent := known.getD (max (max found.seen (parent + 1).toNat) 1)
  let (read, next) ← blockLines literal indent (next.rest.length + 1) { empty } next
  let tail :=
    match chomping with
    | .strip => []
    | .clip => read.lastBreak
    | .keep => read.lastBreak ++ read.empty
  return (read.text ++ tail, next)

end Rehearsal.Yaml
