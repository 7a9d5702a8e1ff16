import Rehearsal.Text.CharSet
import Rehearsal.Toml.Reading

/-!
Strings of TOML texts, in one line or in several: basic ones with escape sequences and literal
ones without.
-/

namespace Rehearsal.Toml

/-- The character that a letter after a backslash stands for. -/
def escaped? (c : Char) : Option Char :=
  match c with
  | 'b' => some '\x08'
  | 't' => some '\t'
  | 'n' => some '\n'
  | 'f' => some '\x0c'
  | 'r' => some '\r'
  | 'e' => some '\x1b'
  | '"' | '\\' => some c
  | _ => none

/-- The number of hexadecimal digits after a letter that announces a code point. -/
def escapeLength? (c : Char) : Option Nat :=
  match c with
  | 'x' => some 2
  | 'u' => some 4
  | 'U' => some 8
  | _ => none

/-- Reads an escape sequence behind its backslash. -/
def escapeSequence : Reading Char := do
  match ← get with
  | [] => throw .unclosed
  | c :: rest =>
      match escaped? c, escapeLength? c with
      | some read, _ => set rest; return read
      | none, some length =>
          let digits := rest.take length
          let point := CharSet.hexNumber digits
          if digits.length < length || digits.any (fun d => (CharSet.hexValue? d).isNone) then
            throw .escape
          if (0xD800 ≤ point && point ≤ 0xDFFF) || 0x10FFFF < point then throw .escape
          set (rest.drop length)
          return Char.ofNat point
      | none, none => throw .escape

/-- Reads a basic string of one line behind its opening mark. -/
def basicFrom : Nat → List Char → Reading String
  | 0, _ => throw .unclosed
  | fuel + 1, read => do
      match ← get with
      | [] => throw .unclosed
      | '"' :: rest => set rest; return String.ofList read
      | '\\' :: rest =>
          set rest
          let c ← escapeSequence
          basicFrom fuel (read ++ [c])
      | c :: rest =>
          if !isPrintable c then throw .character
          set rest
          basicFrom fuel (read ++ [c])

/-- Reads a literal string of one line behind its opening mark. -/
def literal : Reading String := do
  let read ← takeWhile fun c => isPrintable c && c != '\''
  match ← get with
  | '\'' :: rest => set rest; return String.ofList read
  | _ => throw .unclosed

/-- What is left of a text behind blanks and line breaks. -/
def dropBlankLines : Nat → List Char → List Char
  | 0, text => text
  | fuel + 1, text =>
      let text := text.dropWhile isSpace
      match lineBreak? text with
      | some rest => dropBlankLines fuel rest
      | none => text

/-- Reads a string of several lines behind its opening marks. Of the marks before the end up to
two belong to the string. -/
def linesFrom (mark : Char) (escapes : Bool) : Nat → List Char → Reading String
  | 0, _ => throw .unclosed
  | fuel + 1, read => do
      let text ← get
      match text with
      | [] => throw .unclosed
      | c :: rest =>
          if c == mark then
            let marks := min 5 (text.takeWhile (· == mark)).length
            set (text.drop marks)
            if marks < 3 then linesFrom mark escapes fuel (read ++ List.replicate marks mark)
            else return String.ofList (read ++ List.replicate (marks - 3) mark)
          else if escapes && c == '\\' then
            match lineBreak? (rest.dropWhile isSpace) with
            | some rest =>
                set (dropBlankLines (rest.length + 1) rest)
                linesFrom mark escapes fuel read
            | none =>
                set rest
                let c ← escapeSequence
                linesFrom mark escapes fuel (read ++ [c])
          else
            match lineBreak? text with
            | some rest =>
                set rest
                linesFrom mark escapes fuel (read ++ text.take (text.length - rest.length))
            | none =>
                if !isPrintable c then throw .character
                set rest
                linesFrom mark escapes fuel (read ++ [c])

/-- Reads a string of several lines; a line break behind its opening marks is no part of it. -/
def textLines (mark : Char) : Reading String := do
  skip 3
  modify fun text => (lineBreak? text).getD text
  linesFrom mark (mark == '"') ((← get).length + 1) []

/-- Reads a string of one line with its marks. -/
def textLine : Reading String := do
  match ← get with
  | '"' :: rest => set rest; basicFrom (rest.length + 1) []
  | '\'' :: rest => set rest; literal
  | _ => throw .value

/-- Reads a string. -/
def text : Reading String := do
  match ← get with
  | '"' :: '"' :: '"' :: _ => textLines '"'
  | '\'' :: '\'' :: '\'' :: _ => textLines '\''
  | _ => textLine

end Rehearsal.Toml
