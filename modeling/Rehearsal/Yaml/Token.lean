import Rehearsal.Yaml.Scalar
import Rehearsal.Yaml.Tag

/-!
The tokens of a YAML text. Indentation opens and closes blocks, and a key is recognized by the
colon that follows it in the same line.
-/

namespace Rehearsal.Yaml

/-- A token. -/
inductive Token where
  | directive (directive : Directive)
  | documentStart
  | documentEnd
  | blockSequenceStart
  | blockMappingStart
  | blockEnd
  | flowSequenceStart
  | flowSequenceEnd
  | flowMappingStart
  | flowMappingEnd
  | blockEntry
  | flowEntry
  | key
  | value
  | alias (name : String)
  | anchor (name : String)
  | tag (tag : WrittenTag)
  | scalar (plain : Bool) (text : String)
deriving DecidableEq, Repr

/-- A place where a key may have begun. -/
structure PossibleKey where
  /-- Whether nothing but a key may stand there. -/
  required : Bool
  /-- The number of tokens before it. -/
  number : Nat
  index : Nat
  line : Nat
  column : Nat

/-- The state of reading tokens. -/
structure Lexer where
  cursor : Cursor
  /-- The column of the innermost block; -1 outside all blocks. -/
  indent : Int := -1
  /-- The columns of the blocks around it. -/
  outerIndents : List Int := []
  /-- The key that may have begun at the current level of brackets. -/
  possible : Option PossibleKey := none
  /-- The same for the levels around it, innermost first. -/
  outerPossible : List (Option PossibleKey) := []
  /-- Whether a key may begin here. -/
  keyAllowed : Bool := true
  /-- The tokens that were read, newest first. -/
  tokens : List Token := []

namespace Lexer

/-- Whether the place is inside brackets. -/
def inFlow (lexer : Lexer) : Bool :=
  !lexer.outerPossible.isEmpty

/-- Adds a token. -/
def push (lexer : Lexer) (token : Token) : Lexer :=
  { lexer with tokens := token :: lexer.tokens }

/-- Adds a token behind a given number of tokens. -/
def insert (lexer : Lexer) (number : Nat) (token : Token) : Lexer :=
  let later := lexer.tokens.length - number
  { lexer with tokens := lexer.tokens.take later ++ token :: lexer.tokens.drop later }

/-- Moves on to a place. -/
def moveTo (lexer : Lexer) (cursor : Cursor) : Lexer :=
  { lexer with cursor }

/-- Moves on by some characters of the line. -/
def skip (lexer : Lexer) (count : Nat) : Lexer :=
  lexer.moveTo (lexer.cursor.skip count)

/-- Says whether a key may begin here. -/
def allowKey (lexer : Lexer) (keyAllowed : Bool) : Lexer :=
  { lexer with keyAllowed }

/-- Moves to the next token: blanks, comments and line breaks are passed over. At the beginning
of a block's line a tab is no blank. -/
def passGap : Nat → Lexer → Lexer
  | 0, lexer => lexer
  | fuel + 1, lexer =>
      let cursor := lexer.cursor
      let cursor :=
        if cursor.column == 0 && cursor.sees '\ufeff' then cursor.skip 1 else cursor
      let tabs := lexer.inFlow || !lexer.keyAllowed
      let cursor := (cursor.skipWhile fun c => c == ' ' || tabs && c == '\t').skipComment
      if cursor.seesAny isBreak then
        let next := lexer.moveTo cursor.skipBreak
        passGap fuel (if lexer.inFlow then next else next.allowKey true)
      else lexer.moveTo cursor

/-- Whether it is too late for the colon of a key: a key lies in one line and has at most 1024
characters. -/
def isStale (cursor : Cursor) (key : PossibleKey) : Bool :=
  key.line < cursor.line || key.index + 1024 < cursor.index

/-- Gives up a key for which it is too late. -/
def dropStale (cursor : Cursor) (key : Option PossibleKey) : Except Fault (Option PossibleKey) :=
  match key with
  | none => .ok none
  | some key =>
      if !isStale cursor key then .ok (some key)
      else if key.required then .error .keyExpected
      else .ok none

/-- Gives up all keys for which it is too late. -/
def dropStaleKeys (lexer : Lexer) : Except Fault Lexer := do
  let possible ← dropStale lexer.cursor lexer.possible
  let outerPossible ← lexer.outerPossible.mapM (dropStale lexer.cursor)
  return { lexer with possible, outerPossible }

/-- Gives up the key that may have begun at this level. -/
def forgetKey (lexer : Lexer) : Except Fault Lexer :=
  if lexer.possible.any PossibleKey.required then .error .keyExpected
  else .ok { lexer with possible := none }

/-- Remembers that a key may begin here. -/
def rememberKey (lexer : Lexer) : Except Fault Lexer := do
  if !lexer.keyAllowed then return lexer
  let next ← lexer.forgetKey
  let cursor := lexer.cursor
  return { next with
    possible := some
      { required := !lexer.inFlow && lexer.indent == cursor.column, number := lexer.tokens.length,
        index := cursor.index, line := cursor.line, column := cursor.column } }

/-- Opens a block at a column that is deeper than that of the block around it. The block begins
behind the last token or behind a given number of tokens. -/
def openBlock (lexer : Lexer) (column : Nat) (number : Option Nat) (token : Token) : Lexer :=
  if lexer.inFlow || column ≤ lexer.indent then lexer
  else
    let deeper :=
      { lexer with outerIndents := lexer.indent :: lexer.outerIndents, indent := column }
    match number with
    | some number => deeper.insert number token
    | none => deeper.push token

/-- Closes the blocks deeper than a column. -/
def closeBlocks (lexer : Lexer) (column : Int) : Lexer :=
  if lexer.inFlow then lexer
  else close lexer.outerIndents lexer
where
  /-- Closes blocks along the columns of the blocks around them. -/
  close : List Int → Lexer → Lexer
    | [], lexer => lexer
    | outer :: rest, lexer =>
        if lexer.indent ≤ column then lexer
        else close rest { lexer.push .blockEnd with indent := outer, outerIndents := rest }

/-- Reads a token that ends all blocks. -/
def outside (lexer : Lexer) : Except Fault Lexer := do
  return (← (lexer.closeBlocks (-1)).forgetKey).allowKey false

/-- Reads a directive. -/
def readDirective (lexer : Lexer) : Except Fault Lexer := do
  let (found, next) ← directive lexer.cursor
  return ((← lexer.outside).push (.directive found)).moveTo next

/-- Reads a mark of a document's start or end. -/
def readDocumentMark (lexer : Lexer) (token : Token) : Except Fault Lexer := do
  return ((← lexer.outside).push token).skip 3

/-- Reads an opening bracket. -/
def readOpening (lexer : Lexer) (token : Token) : Except Fault Lexer := do
  let next ← lexer.rememberKey
  let deeper :=
    { next with possible := none, outerPossible := next.possible :: next.outerPossible }
  return ((deeper.allowKey true).push token).skip 1

/-- Reads a closing bracket. -/
def readClosing (lexer : Lexer) (token : Token) : Except Fault Lexer := do
  let next ← lexer.forgetKey
  let outer :=
    match next.outerPossible with
    | possible :: outerPossible => { next with possible, outerPossible }
    | [] => next
  return ((outer.allowKey false).push token).skip 1

/-- Reads a comma between the items in brackets. -/
def readFlowEntry (lexer : Lexer) : Except Fault Lexer := do
  return (((← lexer.forgetKey).allowKey true).push .flowEntry).skip 1

/-- Opens a block for an indicator that stands here, where a key may begin. -/
def openAtIndicator (lexer : Lexer) (token : Token) : Except Fault Lexer :=
  if lexer.inFlow then .ok lexer
  else if !lexer.keyAllowed then .error .keyRefused
  else .ok (lexer.openBlock lexer.cursor.column none token)

/-- Reads the hyphen before an item of a block. -/
def readBlockEntry (lexer : Lexer) : Except Fault Lexer := do
  let next ← (← lexer.openAtIndicator .blockSequenceStart).forgetKey
  return ((next.allowKey true).push .blockEntry).skip 1

/-- Reads the question mark before a key. -/
def readKey (lexer : Lexer) : Except Fault Lexer := do
  let next ← (← lexer.openAtIndicator .blockMappingStart).forgetKey
  return ((next.allowKey !lexer.inFlow).push .key).skip 1

/-- Reads the colon before a value. What may have been a key before it is one. -/
def readValue (lexer : Lexer) : Except Fault Lexer := do
  let next ←
    match lexer.possible with
    | some key =>
        let keyed := lexer.insert key.number .key
        let opened := keyed.openBlock key.column (some key.number) .blockMappingStart
        pure ({ opened with possible := none }.allowKey false)
    | none => pure ((← lexer.openAtIndicator .blockMappingStart).allowKey !lexer.inFlow)
  return (next.push .value).skip 1

/-- Reads a token that may be the beginning of a key. -/
def readNode (lexer : Lexer) (read : Cursor → Except Fault (Token × Cursor))
    : Except Fault Lexer := do
  let (token, next) ← read lexer.cursor
  return (((← lexer.rememberKey).allowKey false).push token).moveTo next

/-- Reads a block scalar. -/
def readBlockScalar (lexer : Lexer) (literal : Bool) : Except Fault Lexer := do
  let (text, next) ← block literal lexer.indent lexer.cursor
  let token := Token.scalar false (String.ofList text)
  return (((← lexer.forgetKey).allowKey true).push token).moveTo next

/-- Reads a plain scalar. Behind line breaks that follow it a key may begin. -/
def readPlain (lexer : Lexer) : Except Fault Lexer := do
  let (text, broken, next) ← plain lexer.inFlow (lexer.indent + 1) lexer.cursor
  let token := Token.scalar true (String.ofList text)
  return (((← lexer.rememberKey).allowKey broken).push token).moveTo next

/-- Whether a plain scalar may begin here. -/
def seesPlain (lexer : Lexer) : Bool :=
  match lexer.cursor.rest with
  | [] => false
  | c :: rest =>
      if c == '-' then !rest.head?.any isBlank
      else if c == '?' || c == ':' then !lexer.inFlow && !lexer.cursor.gapAt 1
      else !isBlank c && !isBreak c && !",[]\x7b\x7d#&*!|>'\"%@\x60".toList.contains c

/-- Reads the token that stands here. -/
def readToken (lexer : Lexer) : Except Fault Lexer :=
  let cursor := lexer.cursor
  let indicator := lexer.inFlow || cursor.gapAt 1
  match cursor.rest with
  | [] => .ok lexer
  | c :: _ =>
      if cursor.column == 0 && c == '%' then lexer.readDirective
      else if cursor.seesMark '-' then lexer.readDocumentMark .documentStart
      else if cursor.seesMark '.' then lexer.readDocumentMark .documentEnd
      else if c == '[' then lexer.readOpening .flowSequenceStart
      else if c == '\x7b' then lexer.readOpening .flowMappingStart
      else if c == ']' then lexer.readClosing .flowSequenceEnd
      else if c == '\x7d' then lexer.readClosing .flowMappingEnd
      else if c == ',' then lexer.readFlowEntry
      else if c == '-' && cursor.gapAt 1 then lexer.readBlockEntry
      else if c == '?' && indicator then lexer.readKey
      else if c == ':' && indicator then lexer.readValue
      else if c == '*' then
        lexer.readNode fun cursor => do
          let (name, next) ← anchorName cursor
          return (.alias name, next)
      else if c == '&' then
        lexer.readNode fun cursor => do
          let (name, next) ← anchorName cursor
          return (.anchor name, next)
      else if c == '!' then
        lexer.readNode fun cursor => do
          let (tag, next) ← writtenTag lexer.inFlow cursor
          return (.tag tag, next)
      else if c == '|' && !lexer.inFlow then lexer.readBlockScalar true
      else if c == '>' && !lexer.inFlow then lexer.readBlockScalar false
      else if c == '\'' || c == '"' then
        lexer.readNode fun cursor => do
          let (text, next) ← quoted (c == '\'') cursor
          return (.scalar false (String.ofList text), next)
      else if lexer.seesPlain then lexer.readPlain
      else .error .indicator

/-- Reads tokens to the end of the text. -/
def readAll : Nat → Lexer → Except Fault (List Token)
  | 0, _ => .error .content
  | fuel + 1, lexer => do
      let next ← (lexer.passGap (lexer.cursor.rest.length + 1)).dropStaleKeys
      if next.cursor.atEnd then return (← (next.closeBlocks (-1)).forgetKey).tokens.reverse
      readAll fuel (← (next.closeBlocks next.cursor.column).readToken)

end Lexer

/-- The tokens of a text. -/
def Token.ofText (text : String) : Except Fault (List Token) :=
  if text.toList.all isAllowed then
    Lexer.readAll (text.toList.length + 1) { cursor := { rest := text.toList } }
  else .error .character

end Rehearsal.Yaml
