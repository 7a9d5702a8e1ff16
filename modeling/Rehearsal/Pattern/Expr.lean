/-!
Regular expressions as they are written: literals, classes, assertions, groups, repetitions and
flags, before any flag has taken effect.
-/

namespace Rehearsal.Pattern

/-- The faults of a written pattern. -/
inductive PatternError where
  | unexpectedEnd
  | groupUnopened
  | groupUnclosed
  | groupName
  | duplicateName (name : String)
  | lookAround
  | backReference
  | repetitionMissing
  | repetitionCount
  | flags
  | escape
  | hexadecimal
  | classUnclosed
  | classRange
  | classItem
  | unknownProperty (name : String)
  | unicodeNeeded
  | notText
  | nesting
  | size
deriving DecidableEq, Repr

/-- A mark in place of the words for a fault of a pattern. How the reader of patterns words its
faults is left out, so all of them have the same mark. -/
def PatternError.message (_ : PatternError) : String :=
  "<regex error>"

/-- A flag of a pattern. -/
inductive Flag where
  | caseless
  | multiLine
  | dotAll
  | swapGreed
  | unicode
  | crlf
  | verbose
deriving DecidableEq, Repr

/-- Flags that are set and flags that are cleared. -/
structure FlagChange where
  set : List Flag := []
  cleared : List Flag := []
deriving DecidableEq, Repr

/-- The state of a flag after a change. -/
def FlagChange.apply (change : FlagChange) (flag : Flag) (state : Bool) : Bool :=
  if change.cleared.contains flag then false
  else if change.set.contains flag then true
  else state

/-- A condition on a place of the text. -/
inductive Assertion where
  | lineStart
  | lineEnd
  | textStart
  | textEnd
  | wordBoundary
  | notWordBoundary
  | wordStart
  | wordEnd
  | wordStartHalf
  | wordEndHalf
deriving DecidableEq, Repr

/-- A class of characters that has a name. -/
inductive NamedClass where
  | digit
  | space
  | word
  /-- A property by a name of its own. -/
  | property (name : String)
  /-- The characters for which a property has a value. -/
  | valued (property value : String)
  /-- A class of ASCII characters. -/
  | ascii (ranges : List (Nat × Nat))
deriving DecidableEq, Repr

/-- The operators between parts of a bracketed class. -/
inductive ClassOperator where
  | intersection
  | difference
  | symmetricDifference
deriving DecidableEq, Repr

/-- A part of a bracketed class. -/
inductive ClassExpr where
  | nothing
  | range (low high : Char)
  | named (negated : Bool) (kind : NamedClass)
  /-- A bracketed class inside another. -/
  | bracket (negated : Bool) (body : ClassExpr)
  | both (left right : ClassExpr)
  | combine (operator : ClassOperator) (left right : ClassExpr)
deriving DecidableEq, Repr

/-- A written regular expression. -/
inductive Expr where
  | empty
  /-- A character; `byte` tells whether it was written as two hexadecimal digits. -/
  | literal (char : Char) (byte : Bool)
  | dot
  | assertion (kind : Assertion)
  | named (negated : Bool) (kind : NamedClass)
  | bracket (negated : Bool) (body : ClassExpr)
  | repetition (body : Expr) (least : Nat) (most : Option Nat) (greedy : Bool)
  | group (name : Option String) (body : Expr)
  | flagged (change : FlagChange) (body : Expr)
  | setFlags (change : FlagChange)
  | concat (parts : List Expr)
  | alternation (branches : List Expr)
deriving Inhabited, Repr

namespace Expr

/-- Several expressions in a row. -/
def ofParts : List Expr → Expr
  | [] => empty
  | [part] => part
  | parts => concat parts

/-- Several branches. -/
def ofBranches : List Expr → Expr
  | [] => empty
  | [branch] => branch
  | branches => alternation branches

end Expr

/-- The depth of nesting inside a bracketed class. -/
def ClassExpr.depth : ClassExpr → Nat
  | nothing | range _ _ | named _ _ => 0
  | bracket _ body => body.depth + 1
  | both left right => max left.depth right.depth
  | combine _ left right => max left.depth right.depth + 1

mutual

/-- The depth of nesting of an expression. -/
def Expr.depth : Expr → Nat
  | .empty | .literal _ _ | .dot | .assertion _ | .named _ _ | .setFlags _ => 0
  | .bracket _ body => body.depth + 1
  | .repetition body _ _ _ => body.depth + 1
  | .group _ body | .flagged _ body => body.depth + 1
  | .concat parts | .alternation parts => Expr.depthList parts + 1

/-- The greatest depth of nesting of several expressions. -/
def Expr.depthList : List Expr → Nat
  | [] => 0
  | part :: rest => max part.depth (Expr.depthList rest)

end

/-- The greatest depth of nesting that is read. -/
def nestingLimit : Nat := 250

end Rehearsal.Pattern
