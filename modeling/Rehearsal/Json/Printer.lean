import Rehearsal.Json.Basic

/-!
The two written forms of a JSON value: on one line without blanks, and indented by two spaces
with one item a line.
-/

namespace Rehearsal.Json

/-- A hexadecimal digit. -/
def hexDigit (value : Nat) : Char :=
  if value < 10 then Char.ofNat (48 + value) else Char.ofNat (87 + value)

/-- A character inside a quoted text: quotes, backslashes and control characters are escaped. -/
def escapeChar (c : Char) : List Char :=
  match c with
  | '"' => ['\\', '"']
  | '\\' => ['\\', '\\']
  | '\n' => ['\\', 'n']
  | '\r' => ['\\', 'r']
  | '\t' => ['\\', 't']
  | _ =>
      if c.toNat = 8 then ['\\', 'b']
      else if c.toNat = 12 then ['\\', 'f']
      else if c.toNat < 32 then
        ['\\', 'u', '0', '0', hexDigit (c.toNat / 16), hexDigit (c.toNat % 16)]
      else [c]

/-- A quoted text. -/
def quote (text : String) : String :=
  String.ofList ('"' :: text.toList.flatMap escapeChar ++ ['"'])

mutual

/-- The form on one line. -/
def compact : Json → String
  | null => "null"
  | bool value => if value then "true" else "false"
  | count value => toString value
  | string value => quote value
  | array items => "[" ++ compactItems items ++ "]"
  | object fields => "\x7b" ++ compactFields fields ++ "\x7d"

/-- Items separated by commas. -/
def compactItems : List Json → String
  | [] => ""
  | [item] => compact item
  | item :: rest => compact item ++ "," ++ compactItems rest

/-- Fields separated by commas. -/
def compactFields : List (String × Json) → String
  | [] => ""
  | [(name, value)] => quote name ++ ":" ++ compact value
  | (name, value) :: rest => quote name ++ ":" ++ compact value ++ "," ++ compactFields rest

end

/-- The start of a line at a depth. -/
def lineStart (depth : Nat) : String :=
  String.ofList ('\n' :: List.replicate (2 * depth) ' ')

mutual

/-- The indented form of a value whose own line is at a depth; empty arrays and objects stay on
one line. -/
def pretty (depth : Nat) : Json → String
  | null => "null"
  | bool value => if value then "true" else "false"
  | count value => toString value
  | string value => quote value
  | array [] => "[]"
  | array (item :: rest) =>
      "[" ++ prettyItems (depth + 1) (item :: rest) ++ lineStart depth ++ "]"
  | object [] => "\x7b\x7d"
  | object (field :: rest) =>
      "\x7b" ++ prettyFields (depth + 1) (field :: rest) ++ lineStart depth ++ "\x7d"

/-- Items one a line. -/
def prettyItems (depth : Nat) : List Json → String
  | [] => ""
  | [item] => lineStart depth ++ pretty depth item
  | item :: rest => lineStart depth ++ pretty depth item ++ "," ++ prettyItems depth rest

/-- Fields one a line. -/
def prettyFields (depth : Nat) : List (String × Json) → String
  | [] => ""
  | [(name, value)] => lineStart depth ++ quote name ++ ": " ++ pretty depth value
  | (name, value) :: rest =>
      lineStart depth ++ quote name ++ ": " ++ pretty depth value ++ ","
        ++ prettyFields depth rest

end

end Rehearsal.Json
