import Rehearsal.Pattern.Node

/-!
Matching by lists of ends: the places where a node can end from a given place, in order of
preference. A choice prefers its first branch, a greedy repetition prefers to go on, and of two
ways to one place the preferred one is kept. A search takes the leftmost start that has an end,
and the most preferred end from there.
-/

namespace Rehearsal.Pattern

/-- A place in a text, with the captures made on the way to it. -/
structure Thread where
  /-- The number of characters before the place. -/
  position : Nat
  /-- The character before the place. -/
  before : Option Char
  /-- The characters after the place. -/
  after : List Char
  /-- The captured spans by name, latest first: where each starts and where it ends. -/
  captures : List (String × Nat × Nat) := []
deriving DecidableEq, Repr

namespace Thread

/-- The start of a text. -/
def start (text : List Char) : Thread :=
  { position := 0, before := none, after := text }

/-- The place after one more character. -/
def step (thread : Thread) (c : Char) (rest : List Char) : Thread :=
  { thread with position := thread.position + 1, before := some c, after := rest }

/-- Records a capture that started at a position and ends here. -/
def record (thread : Thread) (name : String) (position : Nat) : Thread :=
  { thread with captures := (name, position, thread.position) :: thread.captures }

end Thread

/-- Whether a character belongs to words. -/
def isWordChar (ascii : Bool) (c : Char) : Bool :=
  if ascii || c.toNat < 128 then asciiWord.mem c else Text.Property.wordChars.mem c

/-- Whether a word condition holds between what stands before and after. -/
def wordCondition (kind : Assertion) (before after : Bool) : Bool :=
  match kind with
  | .wordBoundary => before != after
  | .notWordBoundary => before == after
  | .wordStart => !before && after
  | .wordEnd => before && !after
  | .wordStartHalf => !before
  | .wordEndHalf => !after
  | _ => false

/-- Whether a condition holds at a place. -/
def Look.holds (condition : Look) (thread : Thread) : Bool :=
  match condition with
  | .textStart => thread.position == 0
  | .textEnd => thread.after.isEmpty
  | .lineStart crlf =>
      match thread.before with
      | none => true
      | some c => c == '\n' || (crlf && c == '\r' && thread.after.head? != some '\n')
  | .lineEnd crlf =>
      match thread.after.head? with
      | none => true
      | some c =>
          if crlf then c == '\r' || (c == '\n' && thread.before != some '\r') else c == '\n'
  | .word kind ascii =>
      wordCondition kind (thread.before.any (isWordChar ascii))
        (thread.after.head?.any (isWordChar ascii))

/-- Keeps the first thread at each place. The places seen before are the ones of a number's binary
digits. -/
def distinctFrom (seen : Nat) : List Thread → List Thread
  | [] => []
  | thread :: rest =>
      if seen.testBit thread.position then distinctFrom seen rest
      else thread :: distinctFrom (seen ||| 1 <<< thread.position) rest

/-- Keeps the first thread at each place. -/
def distinct (threads : List Thread) : List Thread :=
  match threads with
  | [] | [_] => threads
  | _ => distinctFrom 0 threads

/-- The places after one, two and more characters of a set, as long as they last. -/
def runs (set : CharSet) (thread : Thread) : List Char → List Thread
  | [] => []
  | c :: rest =>
      if set.mem c then
        let next := thread.step c rest
        next :: runs set next rest
      else []

/-- What is left to do of a repetition: begin a further round, or leave. -/
inductive Round where
  | begin_ (thread : Thread)
  | leave (thread : Thread)

/-- The rounds of a repetition whose body has given ends. A round begins at a place once; a round
that has read nothing leaves. -/
def rounds (body : Thread → List Thread) (greedy : Bool)
    : Nat → Nat → List Round → List Thread
  | 0, _, _ => []
  | _, _, [] => []
  | fuel + 1, seen, .leave thread :: rest => thread :: rounds body greedy fuel seen rest
  | fuel + 1, seen, .begin_ thread :: rest =>
      if seen.testBit thread.position then rounds body greedy fuel seen rest
      else
        let further := (body thread).map .begin_
        let seen := seen ||| 1 <<< thread.position
        rounds body greedy fuel seen
          (if greedy then further ++ .leave thread :: rest else .leave thread :: further ++ rest)

/-- The first rounds of a repetition from a thread. -/
def firstRounds (body : Thread → List Thread) (thread : Thread) : List Round :=
  (body thread).map fun next =>
    if next.position = thread.position then .leave next else .begin_ next

/-- The ends of a node from a place, most preferred first. -/
def Node.ends : Node → Thread → List Thread
  | .empty, thread => [thread]
  | .chars set, thread =>
      match thread.after with
      | [] => []
      | c :: rest => if set.mem c then [thread.step c rest] else []
  | .look condition, thread => if condition.holds thread then [thread] else []
  | .capture name body, thread =>
      (body.ends thread).map fun found => found.record name thread.position
  | .seq first second, thread => distinct ((first.ends thread).flatMap second.ends)
  | .alt first second, thread => distinct (first.ends thread ++ second.ends thread)
  | .plus (.chars set) greedy, thread =>
      let found := runs set thread thread.after
      if greedy then found.reverse else found
  | .plus body greedy, thread =>
      let size := thread.after.length + 2
      distinct (rounds body.ends greedy (size * (size + 1)) 0 (firstRounds body.ends thread))

/-- The most preferred end from the leftmost place that has one. -/
def Node.searchFrom (node : Node) (thread : Thread) : List Char → Option Thread
  | [] => (node.ends thread).head?
  | c :: rest =>
      match node.ends thread with
      | found :: _ => some found
      | [] => node.searchFrom (thread.step c rest) rest

/-- Searches a text. -/
def Node.search (node : Node) (text : List Char) : Option Thread :=
  node.searchFrom (.start text) text

end Rehearsal.Pattern
