import Rehearsal.Pattern.Expr
import Rehearsal.Text.Property

/-!
Reading a regular expression from its text. Every group and every class is read to its closing
bracket, so nothing of a faulty pattern is accepted.
-/

namespace Rehearsal.Pattern.Reader

open Rehearsal.Text

/-- Where the reader stands: the text to come, whether blanks and comments are skipped, and the
group names met so far, last first. -/
structure State where
  rest : List Char
  verbose : Bool := false
  names : List String := []

/-- A step of reading. -/
abbrev Reading := StateT State (Except PatternError)

/-- Drops a comment up to and including its line break. -/
def dropComment : List Char → List Char
  | [] => []
  | c :: rest => if c = '\n' then rest else dropComment rest

/-- Drops blanks and comments. -/
def dropBlanks : Nat → List Char → List Char
  | 0, rest => rest
  | _, [] => []
  | fuel + 1, c :: rest =>
      if isBlank c then dropBlanks fuel rest
      else if c = '#' then dropBlanks fuel (dropComment rest)
      else c :: rest

/-- Skips blanks and comments where flags say so. -/
def skipBlanks : Reading Unit :=
  modify fun state =>
    if state.verbose then { state with rest := dropBlanks (state.rest.length + 1) state.rest }
    else state

/-- The next character. -/
def peek? : Reading (Option Char) :=
  return (← get).rest.head?

/-- The next character; the text must not end here. -/
def peek (error : PatternError) : Reading Char := do
  match ← peek? with
  | some c => return c
  | none => throw error

/-- Goes past one character. -/
def bump : Reading Unit :=
  modify fun state => { state with rest := state.rest.tail }

/-- Goes past one character and the blanks after it. -/
def advance : Reading Unit := do
  bump
  skipBlanks

/-- Goes past a text if it comes next. -/
def accept (text : String) : Reading Bool := do
  let state ← get
  if text.toList.isPrefixOf state.rest then
    set { state with rest := state.rest.drop text.toList.length }
    return true
  else
    return false

/-- The characters with a meaning of their own. -/
def isMeta (c : Char) : Bool :=
  "\\.+*?()|[]\x7b\x7d^$#&-~".toList.contains c

/-- Whether a backslash before a character leaves it as it is. -/
def isEscapable (c : Char) : Bool :=
  isMeta c || (c.toNat < 128 && !c.isAlphanum && c != '<' && c != '>')

/-- Reads hexadecimal digits of a fixed number. -/
def hexDigits : Nat → Nat → Reading Nat
  | 0, value => return value
  | count + 1, value => do
      let c ← peek .unexpectedEnd
      match CharSet.hexValue? c with
      | none => throw .hexadecimal
      | some digit =>
          advance
          hexDigits count (16 * value + digit)

/-- Reads hexadecimal digits up to a closing brace. -/
def hexBraced : Nat → List Char → Reading (List Char)
  | 0, _ => throw .unexpectedEnd
  | fuel + 1, digits => do
      let c ← peek .unexpectedEnd
      if c = '\x7d' then
        advance
        return digits.reverse
      else
        match CharSet.hexValue? c with
        | none => throw .hexadecimal
        | some _ =>
            advance
            hexBraced fuel (c :: digits)

/-- The character of a code point. -/
def charOf (value : Nat) : Reading Char :=
  if value.isValidChar then return Char.ofNat value else throw .hexadecimal

/-- Reads the rest of a hexadecimal escape. -/
def hexEscape (count : Nat) : Reading (Char × Bool) := do
  advance
  if (← peek .unexpectedEnd) = '\x7b' then
    advance
    let digits ← hexBraced ((← get).rest.length + 1) []
    if digits.isEmpty || 8 < (digits.dropWhile (· == '0')).length then throw .hexadecimal
    return (← charOf (CharSet.hexNumber digits), false)
  else
    return (← charOf (← hexDigits count 0), count == 2)

/-- Reads up to a closing brace. -/
def braced : Nat → List Char → Reading (List Char)
  | 0, _ => throw .unexpectedEnd
  | fuel + 1, chars => do
      let c ← peek .unexpectedEnd
      if c = '\x7d' then
        bump
        return chars.reverse
      else
        advance
        braced fuel (c :: chars)

/-- Splits at the first occurrence of a text. -/
def splitFirst (mark : List Char) : List Char → Option (List Char × List Char)
  | [] => none
  | c :: rest =>
      if mark.isPrefixOf (c :: rest) then some ([], (c :: rest).drop mark.length)
      else (splitFirst mark rest).map fun parts => (c :: parts.1, parts.2)

/-- What the braces of a property class name. -/
def propertyOf (negated : Bool) (text : List Char) : Expr :=
  let valued (negated : Bool) (parts : List Char × List Char) : Expr :=
    .named negated (.valued (String.ofList parts.1) (String.ofList parts.2))
  match splitFirst ['!', '='] text with
  | some parts => valued (!negated) parts
  | none =>
      match splitFirst [':'] text with
      | some parts => valued negated parts
      | none =>
          match splitFirst ['='] text with
          | some parts => valued negated parts
          | none => .named negated (.property (String.ofList text))

/-- Reads the rest of a property class. -/
def propertyEscape (negated : Bool) : Reading Expr := do
  advance
  let c ← peek .unexpectedEnd
  if c = '\x7b' then
    advance
    return propertyOf negated (← braced ((← get).rest.length + 1) [])
  else if c = '\\' then
    throw .escape
  else
    advance
    return .named negated (.property (String.singleton c))

/-- Reads the name of a special word boundary up to its closing brace. -/
def boundaryName : Nat → List Char → Reading (List Char)
  | 0, _ => throw .escape
  | fuel + 1, chars => do
      let c ← peek .escape
      if c.isAlpha || c = '-' then
        advance
        boundaryName fuel (c :: chars)
      else if c = '\x7d' then
        bump
        return chars.reverse
      else
        throw .escape

/-- Reads what may follow a word boundary: braces around letters make it a special one, and any
other brace is left to count repetitions. -/
def boundary : Reading Expr := do
  if (← peek?) != some '\x7b' then return .assertion .wordBoundary
  let start ← get
  advance
  let c ← peek .unexpectedEnd
  if !(c.isAlpha || c = '-') then
    set start
    return .assertion .wordBoundary
  match String.ofList (← boundaryName (start.rest.length + 1) []) with
  | "start" => return .assertion .wordStart
  | "end" => return .assertion .wordEnd
  | "start-half" => return .assertion .wordStartHalf
  | "end-half" => return .assertion .wordEndHalf
  | _ => throw .escape

/-- Reads an escape, from its backslash on. -/
def escape : Reading Expr := do
  bump
  let c ← peek .unexpectedEnd
  if c.isDigit then throw .backReference
  match c with
  | 'x' => return (fun found => .literal found.1 found.2) (← hexEscape 2)
  | 'u' => return (fun found => .literal found.1 found.2) (← hexEscape 4)
  | 'U' => return (fun found => .literal found.1 found.2) (← hexEscape 8)
  | 'p' => propertyEscape false
  | 'P' => propertyEscape true
  | _ =>
      bump
      if isEscapable c then return .literal c false
      match c with
      | 'd' => return .named false .digit
      | 'D' => return .named true .digit
      | 's' => return .named false .space
      | 'S' => return .named true .space
      | 'w' => return .named false .word
      | 'W' => return .named true .word
      | 'a' => return .literal '\x07' false
      | 'f' => return .literal '\x0c' false
      | 't' => return .literal '\t' false
      | 'n' => return .literal '\n' false
      | 'r' => return .literal '\r' false
      | 'v' => return .literal '\x0b' false
      | 'A' => return .assertion .textStart
      | 'z' => return .assertion .textEnd
      | 'b' => boundary
      | 'B' => return .assertion .notWordBoundary
      | '<' => return .assertion .wordStart
      | '>' => return .assertion .wordEnd
      | _ => throw .escape

/-- The classes of ASCII characters with names of their own. -/
def asciiClass? (name : String) : Option (List (Nat × Nat)) :=
  match name with
  | "alnum" => some [(48, 57), (65, 90), (97, 122)]
  | "alpha" => some [(65, 90), (97, 122)]
  | "ascii" => some [(0, 127)]
  | "blank" => some [(9, 9), (32, 32)]
  | "cntrl" => some [(0, 31), (127, 127)]
  | "digit" => some [(48, 57)]
  | "graph" => some [(33, 126)]
  | "lower" => some [(97, 122)]
  | "print" => some [(32, 126)]
  | "punct" => some [(33, 47), (58, 64), (91, 96), (123, 126)]
  | "space" => some [(9, 13), (32, 32)]
  | "upper" => some [(65, 90)]
  | "word" => some [(48, 57), (65, 90), (95, 95), (97, 122)]
  | "xdigit" => some [(48, 57), (65, 70), (97, 102)]
  | _ => none

/-- An ASCII class at the start of a text that follows its opening bracket and colon. -/
def asciiClassAt? (text : List Char) : Option (ClassExpr × List Char) :=
  let (negated, named) := match text with
    | '^' :: rest => (true, rest)
    | _ => (false, text)
  let name := named.takeWhile (· != ':')
  match named.drop name.length with
  | ':' :: ']' :: rest =>
      (asciiClass? (String.ofList name)).map fun ranges => (.named negated (.ascii ranges), rest)
  | _ => none

/-- An ASCII class, if one comes next. -/
def acceptAsciiClass : Reading (Option ClassExpr) := do
  let state ← get
  match state.rest with
  | '[' :: ':' :: rest =>
      match asciiClassAt? rest with
      | some (found, rest) =>
          set { state with rest }
          return some found
      | none => return none
  | _ => return none

/-- Reads one item of a bracketed class. -/
def classItem : Reading Expr := do
  let c ← peek .classUnclosed
  if c = '\\' then escape
  else
    bump
    return .literal c false

/-- An item as a part of a class; assertions have no place there. -/
def partOfItem : Expr → Reading ClassExpr
  | .literal c _ => return .range c c
  | .named negated kind => return .named negated kind
  | _ => throw .classItem

/-- The second character to come, blanks and comments apart. -/
def peekSecond? : Reading (Option Char) := do
  let state ← get
  let rest := state.rest.tail
  return (if state.verbose then dropBlanks (rest.length + 1) rest else rest).head?

/-- Reads an item of a class or a range between two items. -/
def classRange : Reading ClassExpr := do
  let low ← classItem
  skipBlanks
  let c ← peek .classUnclosed
  let second ← peekSecond?
  if c != '-' || second == some ']' || second == some '-' then partOfItem low
  else
    advance
    let _ ← peek .classUnclosed
    let high ← classItem
    match low, high with
    | .literal low _, .literal high _ =>
        if low ≤ high then return .range low high else throw .classRange
    | _, _ => throw .classRange

/-- A bracketed class whose closing bracket has not been read. -/
structure OpenClass where
  negated : Bool
  /-- The operand and the operator that stand before the current part. -/
  pending : Option (ClassExpr × ClassOperator) := none
  current : ClassExpr := .nothing

/-- Adds a part to the current one. -/
def OpenClass.add (frame : OpenClass) (part : ClassExpr) : OpenClass :=
  { frame with
    current := match frame.current with
      | .nothing => part
      | current => .both current part }

/-- The class up to here. -/
def OpenClass.body (frame : OpenClass) : ClassExpr :=
  match frame.pending with
  | none => frame.current
  | some (left, operator) => .combine operator left frame.current

/-- Puts an operator after the class up to here. -/
def OpenClass.operate (frame : OpenClass) (operator : ClassOperator) : OpenClass :=
  { frame with pending := some (frame.body, operator), current := .nothing }

/-- Reads hyphens that stand for themselves. -/
def leadingHyphens : Nat → OpenClass → Reading OpenClass
  | 0, frame => return frame
  | fuel + 1, frame => do
      if (← peek .classUnclosed) = '-' then
        advance
        leadingHyphens fuel (frame.add (.range '-' '-'))
      else
        return frame

/-- Reads the opening of a bracketed class: hyphens at its start, or else a closing bracket
there, stand for themselves. -/
def openClass : Reading OpenClass := do
  advance
  let negated := (← peek .classUnclosed) = '^'
  if negated then advance
  let frame ← leadingHyphens ((← get).rest.length + 1) { negated }
  if (← peek .classUnclosed) = ']' && frame.current = .nothing then
    advance
    let _ ← peek .classUnclosed
    return frame.add (.range ']' ']')
  else
    return frame

/-- Reads the rest of a bracketed class inside its enclosing ones, innermost first. -/
def classRest : Nat → List OpenClass → OpenClass → Reading Expr
  | 0, _, _ => throw .classUnclosed
  | fuel + 1, outer, frame => do
      skipBlanks
      let c ← peek .classUnclosed
      if c = '[' then
        match ← acceptAsciiClass with
        | some part => classRest fuel outer (frame.add part)
        | none => classRest fuel (frame :: outer) (← openClass)
      else if c = ']' then
        bump
        match outer with
        | [] => return .bracket frame.negated frame.body
        | parent :: outer =>
            classRest fuel outer (parent.add (.bracket frame.negated frame.body))
      else if ← accept "&&" then classRest fuel outer (frame.operate .intersection)
      else if ← accept "--" then classRest fuel outer (frame.operate .difference)
      else if ← accept "~~" then classRest fuel outer (frame.operate .symmetricDifference)
      else classRest fuel outer (frame.add (← classRange))

/-- Reads a bracketed class. -/
def bracketClass : Reading Expr := do
  let fuel := (← get).rest.length + 1
  classRest fuel [] (← openClass)

/-- Reads decimal digits. -/
def digits : Nat → List Char → Reading (List Char)
  | 0, found => return found.reverse
  | fuel + 1, found => do
      match ← peek? with
      | some c =>
          if c.isDigit then
            advance
            digits fuel (c :: found)
          else
            return found.reverse
      | none => return found.reverse

/-- Skips blanks whatever the flags say. -/
def skipPlainBlanks : Reading Unit :=
  modify fun state => { state with rest := state.rest.dropWhile isBlank }

/-- The number that decimal digits write. -/
def decimalNumber (found : List Char) : Nat :=
  found.foldl (fun number c => 10 * number + (c.toNat - 48)) 0

/-- Reads a repetition count; `none` if there are no digits. -/
def count : Reading (Option Nat) := do
  skipPlainBlanks
  let found ← digits ((← get).rest.length + 1) []
  skipPlainBlanks
  if found.isEmpty then return none
  let value := decimalNumber found
  if value < Nat.pow 2 32 then return some value else throw .repetitionCount

/-- A count that must be there. -/
def someCount (found : Option Nat) : Reading Nat :=
  match found with
  | some value => return value
  | none => throw .repetitionCount

/-- Reads a repetition in braces: its least and its greatest count. -/
def bounds : Reading (Nat × Option Nat) := do
  advance
  let _ ← peek .repetitionCount
  let least ← count
  let c ← peek .repetitionCount
  let found ←
    if c = ',' then
      advance
      if (← peek .repetitionCount) = '\x7d' then
        pure (← someCount least, none)
      else
        let most ← count
        pure (← someCount least, some (← someCount most))
    else
      let exactly ← someCount least
      pure (exactly, some exactly)
  if (← peek .repetitionCount) != '\x7d' then throw .repetitionCount
  advance
  return found

/-- The flag that a letter stands for. -/
def flagOf? (c : Char) : Option Flag :=
  match c with
  | 'i' => some .caseless
  | 'm' => some .multiLine
  | 's' => some .dotAll
  | 'U' => some .swapGreed
  | 'u' => some .unicode
  | 'R' => some .crlf
  | 'x' => some .verbose
  | _ => none

/-- Reads flags up to a colon or a closing bracket. A flag stands once, and a hyphen, which
clears the flags after it, stands once and not last. -/
def flagsRest : Nat → Option FlagChange → FlagChange → Reading FlagChange
  | 0, _, _ => throw .flags
  | fuel + 1, cleared, change => do
      let c ← peek .flags
      if c = ':' || c = ')' then
        match cleared with
        | some ⟨_, []⟩ => throw .flags
        | some ⟨_, flags⟩ => return { change with cleared := flags }
        | none => return change
      else if c = '-' then
        match cleared with
        | some _ => throw .flags
        | none =>
            bump
            flagsRest fuel (some {}) change
      else
        match flagOf? c with
        | none => throw .flags
        | some flag =>
            let known := change.set ++ (cleared.elim [] FlagChange.cleared)
            if known.contains flag then throw .flags
            bump
            match cleared with
            | some negative =>
                flagsRest fuel (some { negative with cleared := flag :: negative.cleared }) change
            | none => flagsRest fuel none { change with set := flag :: change.set }

/-- Whether a character may stand in the name of a group. -/
def isNameChar (first : Bool) (c : Char) : Bool :=
  c = '_' || c.isAlpha || (Property.binary "Alphabetic").mem c
    || (!first && (c = '.' || c = '[' || c = ']' || (Property.category "N").mem c))

/-- Reads the name of a group up to its closing angle bracket. -/
def nameRest : Nat → List Char → Reading (List Char)
  | 0, _ => throw .groupName
  | fuel + 1, chars => do
      let c ← peek .groupName
      if c = '>' then
        bump
        return chars.reverse
      else if isNameChar chars.isEmpty c then
        bump
        nameRest fuel (c :: chars)
      else
        throw .groupName

/-- Reads and records the name of a group. -/
def groupName : Reading String := do
  let name := String.ofList (← nameRest ((← get).rest.length + 1) [])
  if name.isEmpty then throw .groupName
  let state ← get
  if state.names.contains name then throw (.duplicateName name)
  set { state with names := name :: state.names }
  return name

/-- What the opening of a group leads to. -/
inductive Opening where
  | capture (name : Option String)
  | flagged (change : FlagChange)
  | setFlags (change : FlagChange)

/-- Reads the opening of a group. -/
def opening : Reading Opening := do
  advance
  if ← accept "?=" then throw .lookAround
  if ← accept "?!" then throw .lookAround
  if ← accept "?<=" then throw .lookAround
  if ← accept "?<!" then throw .lookAround
  if ← accept "?P<" then return .capture (some (← groupName))
  if ← accept "?<" then return .capture (some (← groupName))
  if ← accept "?" then
    let _ ← peek .groupUnclosed
    let change ← flagsRest ((← get).rest.length + 1) none {}
    let close ← peek .flags
    bump
    if close = ')' then
      if change.set.isEmpty && change.cleared.isEmpty then throw .repetitionMissing
      return .setFlags change
    else
      return .flagged change
  return .capture none

/-- A group whose closing bracket has not been read: what it will be, whether blanks were skipped
before it, and what stands before it. -/
structure OpenGroup where
  opening : Opening
  verbose : Bool
  /-- The branches before the current one, last first. -/
  branches : List Expr
  /-- The parts of the current branch, last first. -/
  parts : List Expr

/-- The expression in a group. -/
def bodyOf (branches parts : List Expr) : Expr :=
  .ofBranches (Expr.ofParts parts.reverse :: branches).reverse

/-- The expression of a group with a body. -/
def OpenGroup.close (group : OpenGroup) (body : Expr) : Expr :=
  match group.opening with
  | .capture name => .group name body
  | .flagged change | .setFlags change => .flagged change body

/-- The parts of a branch with the last one repeated; there must be something to repeat. -/
def repeated (parts : List Expr) (least : Nat) (most : Option Nat) (greedy : Bool)
    : Reading (List Expr) :=
  match parts with
  | [] | .empty :: _ | .setFlags _ :: _ => throw .repetitionMissing
  | part :: before => return .repetition part least most greedy :: before

/-- Whether a question mark makes the repetition before it a lazy one. -/
def greediness : Reading Bool := do
  if (← peek?) = some '?' then
    bump
    return false
  else
    return true

/-- Reads an expression to its end inside its enclosing groups, innermost first. -/
def exprRest : Nat → List OpenGroup → List Expr → List Expr → Reading Expr
  | 0, _, _, _ => throw .unexpectedEnd
  | fuel + 1, outer, branches, parts => do
      skipBlanks
      match ← peek? with
      | none =>
          match outer with
          | [] => return bodyOf branches parts
          | _ :: _ => throw .groupUnclosed
      | some '(' =>
          match ← opening with
          | .setFlags change =>
              modify fun state => { state with verbose := change.apply .verbose state.verbose }
              exprRest fuel outer branches (.setFlags change :: parts)
          | opened =>
              let verbose := (← get).verbose
              match opened with
              | .flagged change =>
                  modify fun state => { state with verbose := change.apply .verbose verbose }
              | _ => pure ()
              exprRest fuel (⟨opened, verbose, branches, parts⟩ :: outer) [] []
      | some ')' =>
          match outer with
          | [] => throw .groupUnopened
          | group :: outer =>
              bump
              modify fun state => { state with verbose := group.verbose }
              let closed := group.close (bodyOf branches parts)
              exprRest fuel outer group.branches (closed :: group.parts)
      | some '|' =>
          bump
          exprRest fuel outer (Expr.ofParts parts.reverse :: branches) []
      | some '[' => exprRest fuel outer branches ((← bracketClass) :: parts)
      | some '?' =>
          bump
          exprRest fuel outer branches (← repeated parts 0 (some 1) (← greediness))
      | some '*' =>
          bump
          exprRest fuel outer branches (← repeated parts 0 none (← greediness))
      | some '+' =>
          bump
          exprRest fuel outer branches (← repeated parts 1 none (← greediness))
      | some '\x7b' =>
          let _ ← repeated parts 0 none true
          let (least, most) ← bounds
          let greedy ← greediness
          if most.any (· < least) then throw .repetitionCount
          exprRest fuel outer branches (← repeated parts least most greedy)
      | some '\\' => exprRest fuel outer branches ((← escape) :: parts)
      | some '.' =>
          bump
          exprRest fuel outer branches (.dot :: parts)
      | some '^' =>
          bump
          exprRest fuel outer branches (.assertion .lineStart :: parts)
      | some '$' =>
          bump
          exprRest fuel outer branches (.assertion .lineEnd :: parts)
      | some c =>
          bump
          exprRest fuel outer branches (.literal c false :: parts)

/-- Reads a whole pattern: its expression and its group names in order. -/
def read (text : List Char) : Except PatternError (Expr × List String) := do
  let (expr, state) ← (exprRest (text.length + 1) [] [] []).run { rest := text }
  if nestingLimit < expr.depth then throw .nesting
  return (expr, state.names.reverse)

end Rehearsal.Pattern.Reader
