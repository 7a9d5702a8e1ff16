import Rehearsal.Pattern.Expr
import Rehearsal.Text.LetterCase

/-!
Regular expressions with their flags taken into account: sets of characters, conditions, named
captures, sequences, ordered choices and repetition.
-/

namespace Rehearsal.Pattern

/-- A condition on a place of the text. -/
inductive Look where
  | textStart
  | textEnd
  /-- After a line break; with `crlf`, a carriage return is a line break too. -/
  | lineStart (crlf : Bool)
  | lineEnd (crlf : Bool)
  /-- A condition on the words on both sides; ASCII words or words of any script. -/
  | word (kind : Assertion) (ascii : Bool)
deriving DecidableEq, Repr

/-- A regular expression that is ready to be matched. -/
inductive Node where
  | empty
  /-- One character of a set. -/
  | chars (set : CharSet)
  | look (condition : Look)
  | capture (name : String) (body : Node)
  | seq (first second : Node)
  /-- The first branch, or else the second. -/
  | alt (first second : Node)
  /-- Once or more. -/
  | plus (body : Node) (greedy : Bool)
deriving DecidableEq, Repr, Inhabited

namespace Node

/-- At most once. -/
def opt (body : Node) (greedy : Bool) : Node :=
  if greedy then alt body empty else alt empty body

/-- Any number of times. -/
def star (body : Node) (greedy : Bool) : Node :=
  opt (plus body greedy) greedy

/-- A fixed number of times after something. -/
def times (before body : Node) : Nat → Node
  | 0 => before
  | count + 1 => seq (times before body count) body

/-- At most a number of times, each further time inside the one before. -/
def upTo (body : Node) (greedy : Bool) : Nat → Node
  | 0 => empty
  | 1 => opt body greedy
  | count + 1 => opt (seq body (upTo body greedy count)) greedy

/-- Something and then something else, where nothing need not be written. -/
def andThen (first second : Node) : Node :=
  match first, second with
  | empty, _ => second
  | _, empty => first
  | _, _ => seq first second

/-- A repetition between two bounds. -/
def repetition (body : Node) (least : Nat) (most : Option Nat) (greedy : Bool) : Node :=
  match least, most with
  | 0, none => star body greedy
  | least + 1, none =>
      match least with
      | 0 => plus body greedy
      | rest + 1 => seq (times body body rest) (plus body greedy)
  | 0, some most => upTo body greedy most
  | least + 1, some most => andThen (times body body least) (upTo body greedy (most - (least + 1)))

end Node

/-- The flags in force at a place of a pattern. -/
structure Flags where
  caseless : Bool := false
  multiLine : Bool := false
  dotAll : Bool := false
  swapGreed : Bool := false
  unicode : Bool := true
  crlf : Bool := false
deriving DecidableEq, Repr

/-- The flags after a change. -/
def Flags.apply (flags : Flags) (change : FlagChange) : Flags where
  caseless := change.apply .caseless flags.caseless
  multiLine := change.apply .multiLine flags.multiLine
  dotAll := change.apply .dotAll flags.dotAll
  swapGreed := change.apply .swapGreed flags.swapGreed
  unicode := change.apply .unicode flags.unicode
  crlf := change.apply .crlf flags.crlf

/-- The ASCII letters, digits and the underscore. -/
def asciiWord : CharSet :=
  ⟨[(48, 57), (65, 90), (95, 95), (97, 122)]⟩

/-- A set with the other letter case of its ASCII letters. -/
def closeAsciiCase (set : CharSet) : CharSet :=
  let moved (first target : Nat) : List (Nat × Nat) :=
    (List.range 26).filterMap fun index =>
      if set.mem (Char.ofNat (first + index)) then some (target + index, target + index) else none
  set.union (CharSet.ofRanges (moved 65 97 ++ moved 97 65))

/-- Closes a set under letter case where the flags ask for it. -/
def foldCase (flags : Flags) (set : CharSet) : CharSet :=
  if !flags.caseless then set
  else if flags.unicode then Text.closeCase set
  else closeAsciiCase set

/-- The complement of a set if it is negated. A negated set of bytes would hold bytes that are no
text. -/
def negateSet (flags : Flags) (negated : Bool) (set : CharSet) : Except PatternError CharSet :=
  if !negated then .ok set
  else if flags.unicode then .ok set.complement
  else .error .notText

/-- The set of one written character. -/
def literalSet (flags : Flags) (c : Char) : CharSet :=
  if !flags.caseless then .ofPoints [c.toNat]
  else if flags.unicode || c.toNat < 128 && !c.isAlpha then .ofPoints (Text.caseVariants c)
  else if c.isAlpha then .ofPoints [c.toUpper.toNat, c.toLower.toNat]
  else .ofPoints [c.toNat]

/-- The set of a named class. -/
def namedSet (flags : Flags) (negated : Bool) (kind : NamedClass) : Except PatternError CharSet :=
  match kind with
  | .digit => negateSet flags negated (if flags.unicode then Text.Property.decimalDigits
      else ⟨[(48, 57)]⟩)
  | .space => negateSet flags negated (if flags.unicode then Text.blanks
      else ⟨[(9, 13), (32, 32)]⟩)
  | .word => negateSet flags negated (if flags.unicode then Text.Property.wordChars else asciiWord)
  | .ascii ranges => negateSet flags negated (foldCase flags ⟨ranges⟩)
  | .property name =>
      if !flags.unicode then .error .unicodeNeeded
      else
        match Text.Property.named? name with
        | some set => negateSet flags negated (foldCase flags set)
        | none => .error (.unknownProperty name)
  | .valued property value =>
      if !flags.unicode then .error .unicodeNeeded
      else
        match Text.Property.valued? property value with
        | some set => negateSet flags negated (foldCase flags set)
        | none => .error (.unknownProperty property)

/-- The set of a part of a bracketed class. Letter case is disregarded before a set is negated
and before two sets are combined. -/
def classSet (flags : Flags) : ClassExpr → Except PatternError CharSet
  | .nothing => .ok ⟨[]⟩
  | .range low high =>
      if flags.unicode || high.toNat < 128 then .ok ⟨[(low.toNat, high.toNat)]⟩
      else .error .unicodeNeeded
  | .named negated kind => namedSet flags negated kind
  | .bracket negated body => do
      negateSet flags negated (foldCase flags (← classSet flags body))
  | .both left right => return (← classSet flags left).union (← classSet flags right)
  | .combine operator left right => do
      let left := foldCase flags (← classSet flags left)
      let right := foldCase flags (← classSet flags right)
      match operator with
      | .intersection => return left.inter right
      | .difference => return left.diff right
      | .symmetricDifference => return left.symmDiff right

/-- The set that a dot stands for. -/
def dotSet (flags : Flags) : Except PatternError CharSet :=
  if !flags.unicode then .error .notText
  else if flags.dotAll then .ok .all
  else if flags.crlf then .ok (CharSet.ofPoints [10, 13]).complement
  else .ok (CharSet.ofPoints [10]).complement

/-- The condition of an assertion. -/
def lookOf (flags : Flags) : Assertion → Look
  | .lineStart => if flags.multiLine then .lineStart flags.crlf else .textStart
  | .lineEnd => if flags.multiLine then .lineEnd flags.crlf else .textEnd
  | .textStart => .textStart
  | .textEnd => .textEnd
  | kind => .word kind (!flags.unicode)

/-- The room that a set takes in a pattern: one place, and more for ranges beyond ASCII. -/
def setRoom (set : CharSet) : Nat :=
  40 + 60 * (set.ranges.filter fun range => 127 < range.1).length

/-- The greatest room that a pattern may take. -/
def roomLimit : Nat := 10 * Nat.pow 2 20

/-- An expression in the making: its node, the room it takes and the flags after it. -/
structure Built where
  node : Node
  room : Nat
  flags : Flags

/-- A pattern must not outgrow the limit. -/
def Built.check (built : Built) : Except PatternError Built :=
  if roomLimit < built.room then .error .size else .ok built

/-- The room of a repetition. -/
def repetitionRoom (room least : Nat) (most : Option Nat) : Nat :=
  (room + 40) * max 1 (most.getD (least + 1))

/-- The node of a set of characters. -/
def setNode (flags : Flags) (set : CharSet) : Built :=
  ⟨.chars set, setRoom set, flags⟩

mutual

/-- Builds the node of an expression under flags. Flags that are set inside a group hold up to
its end. -/
def build (flags : Flags) : Expr → Except PatternError Built
  | .empty => .ok ⟨.empty, 40, flags⟩
  | .literal c byte =>
      if !flags.unicode && byte && 127 < c.toNat then .error .notText
      else .ok (setNode flags (literalSet flags c))
  | .dot => return setNode flags (← dotSet flags)
  | .assertion kind => .ok ⟨.look (lookOf flags kind), 40, flags⟩
  | .named negated kind => return setNode flags (← namedSet flags negated kind)
  | .bracket negated body => do
      let set := foldCase flags (← classSet flags body)
      return setNode flags (← negateSet flags negated set)
  | .repetition body least most greedy => do
      let built ← build flags body
      let room := repetitionRoom built.room least most
      if roomLimit < room then .error .size
      else
        .ok ⟨.repetition built.node least most (greedy != flags.swapGreed), room, built.flags⟩
  | .group name body => do
      let built ← build flags body
      match name with
      | some name => return ⟨.capture name built.node, built.room + 80, flags⟩
      | none => return { built with flags }
  | .flagged change body => do
      let built ← build (flags.apply change) body
      return { built with flags }
  | .setFlags change => .ok ⟨.empty, 0, flags.apply change⟩
  | .concat parts => buildConcat ⟨.empty, 0, flags⟩ parts
  | .alternation branches => buildBranches flags branches

/-- Builds parts one after another, after what has been built. -/
def buildConcat (before : Built) : List Expr → Except PatternError Built
  | [] => .ok before
  | part :: rest => do
      let built ← build before.flags part
      let joined : Built :=
        ⟨before.node.andThen built.node, before.room + built.room, built.flags⟩
      buildConcat (← joined.check) rest

/-- Builds branches; the earlier ones come first. -/
def buildBranches (flags : Flags) : List Expr → Except PatternError Built
  | [] => .ok ⟨.empty, 40, flags⟩
  | [branch] => build flags branch
  | branch :: rest => do
      let first ← build flags branch
      let others ← buildBranches first.flags rest
      let joined : Built := ⟨.alt first.node others.node, first.room + others.room, others.flags⟩
      joined.check

end

end Rehearsal.Pattern
