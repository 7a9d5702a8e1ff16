import Rehearsal.Json.Printer

/-!
The written form of a TOML string. Of the four ways to write a string, the first one that needs
no escape sequence is taken.
-/

namespace Rehearsal.Toml

/-- A way to write a string. -/
inductive Quoting where
  | basic
  | literal
  /-- Basic, in several lines. -/
  | basicLines
  /-- Literal, in several lines. -/
  | literalLines
deriving DecidableEq, Repr

/-- What the choice of a way depends on. -/
structure Traits where
  /-- Whether a control character occurs besides tabs and line breaks. -/
  control : Bool
  backslash : Bool
  newline : Bool
  /-- The length of the longest run of single quotation marks. -/
  singleRun : Nat
  /-- The length of the longest run of double quotation marks. -/
  doubleRun : Nat

/-- Whether a character has no written form of its own in several lines. -/
def isControl (c : Char) : Bool :=
  (c < ' ' && c != '\t' && c != '\n') || c == '\x7f'

/-- The length of the longest run of a character, where a run of some length precedes. -/
def longestRun (mark : Char) (run : Nat) : List Char → Nat
  | [] => run
  | c :: rest =>
      if c == mark then longestRun mark (run + 1) rest else max run (longestRun mark 0 rest)

/-- The traits of a text. -/
def Traits.ofText (text : List Char) : Traits where
  control := text.any isControl
  backslash := text.contains '\\'
  newline := text.contains '\n'
  singleRun := longestRun '\'' 0 text
  doubleRun := longestRun '"' 0 text

/-- The way to write a text with some traits. -/
def Traits.quoting (traits : Traits) : Quoting :=
  if !traits.control && !traits.backslash && traits.doubleRun == 0 && !traits.newline then .basic
  else if !traits.control && traits.singleRun == 0 && !traits.newline then .literal
  else if !traits.control && !traits.backslash && traits.doubleRun ≤ 2 then .basicLines
  else if !traits.control && traits.singleRun ≤ 2 then .literalLines
  else if traits.newline then .basicLines
  else .basic

/-- A hexadecimal digit. -/
def hexDigit (value : Nat) : Char :=
  (Json.hexDigit value).toUpper

/-- The escape sequence of a character. -/
def escapeOf (c : Char) : List Char :=
  match c with
  | '\x08' => ['\\', 'b']
  | '\t' => ['\\', 't']
  | '\n' => ['\\', 'n']
  | '\x0c' => ['\\', 'f']
  | '\r' => ['\\', 'r']
  | '"' | '\\' => ['\\', c]
  | _ => ['\\', 'u', '0', '0', hexDigit (c.toNat / 16), hexDigit (c.toNat % 16)]

/-- The inside of a basic string. In several lines up to two double quotation marks in a row
stand for themselves, and so do line breaks. -/
def escape (lines : Bool) (run : Nat) : List Char → List Char
  | [] => []
  | c :: rest =>
      if c == '"' then
        if lines && run < 2 then c :: escape lines (run + 1) rest
        else escapeOf c ++ escape lines 0 rest
      else if isControl c || c == '\t' || c == '\\' || c == '\n' && !lines then
        escapeOf c ++ escape lines 0 rest
      else c :: escape lines 0 rest

/-- The written form of a string. A string with a line break begins in a line of its own. -/
def quote (text : String) : String :=
  let chars := text.toList
  let traits := Traits.ofText chars
  let opening (mark : String) : String := if traits.newline then mark ++ "\n" else mark
  match traits.quoting with
  | .basic => "\"" ++ String.ofList (escape false 0 chars) ++ "\""
  | .literal => "'" ++ text ++ "'"
  | .basicLines => opening "\"\"\"" ++ String.ofList (escape true 0 chars) ++ "\"\"\""
  | .literalLines => opening "'''" ++ text ++ "'''"

end Rehearsal.Toml
