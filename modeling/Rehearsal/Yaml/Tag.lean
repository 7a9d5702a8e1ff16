import Rehearsal.Text.CharSet
import Rehearsal.Yaml.Cursor
import Rehearsal.Yaml.Fault

/-!
Names in a YAML text: anchors, tags with their handles, and the directives that declare handles.
-/

namespace Rehearsal.Yaml

/-- Reads the name of an anchor or of an alias. -/
def anchorName (cursor : Cursor) : Except Fault (String × Cursor) :=
  let (name, next) := (cursor.skip 1).takeWhile isNameChar
  let stops := next.gapAt 0 || next.seesAny fun c => "?:,]\x7d%@\x60".toList.contains c
  if name.isEmpty || !stops then .error .anchorName else .ok (String.ofList name, next)

/-- The number of bytes of a character by its first byte, and what that byte gives of its code
point. -/
def leadingByte? (byte : Nat) : Option (Nat × Nat) :=
  if byte < 0x80 then some (0, byte)
  else if byte / 32 = 6 then some (1, byte % 32)
  else if byte / 16 = 14 then some (2, byte % 16)
  else if byte / 8 = 30 then some (3, byte % 8)
  else none

/-- Reads a byte written as a per cent sign and two hexadecimal digits. -/
def escapedByte (cursor : Cursor) : Except Fault (Nat × Cursor) :=
  match cursor.rest with
  | '%' :: high :: low :: _ =>
      match CharSet.hexValue? high, CharSet.hexValue? low with
      | some high, some low => .ok (16 * high + low, cursor.skip 3)
      | _, _ => .error .tagText
  | _ => .error .tagText

/-- Reads the further bytes of an escaped character. -/
def escapedTail : Nat → Nat → Cursor → Except Fault (Nat × Cursor)
  | 0, point, cursor => .ok (point, cursor)
  | count + 1, point, cursor => do
      let (byte, next) ← escapedByte cursor
      if byte / 64 != 2 then throw .tagText
      escapedTail count (64 * point + byte % 64) next

/-- Reads a character that is written as escaped bytes. -/
def escapedChar (cursor : Cursor) : Except Fault (Char × Cursor) := do
  let (byte, next) ← escapedByte cursor
  match leadingByte? byte with
  | none => throw .tagText
  | some (count, point) =>
      let (point, next) ← escapedTail count point next
      return (Char.ofNat point, next)

/-- Whether a character may stand in the text of a tag. -/
def isTagChar (verbatim : Bool) (c : Char) : Bool :=
  isNameChar c || ";/?:@&=+$.%!~*'()".toList.contains c
    || verbatim && (c == ',' || c == '[' || c == ']')

/-- Reads the characters of a tag. -/
def tagChars (verbatim : Bool) : Nat → List Char → Cursor → Except Fault (List Char × Cursor)
  | 0, read, cursor => .ok (read, cursor)
  | fuel + 1, read, cursor =>
      match cursor.rest with
      | [] => .ok (read, cursor)
      | c :: _ =>
          if !isTagChar verbatim c then .ok (read, cursor)
          else if c == '%' then
            match escapedChar cursor with
            | .ok (char, next) => tagChars verbatim fuel (read ++ [char]) next
            | .error fault => .error fault
          else tagChars verbatim fuel (read ++ [c]) (cursor.skip 1)

/-- Reads the text of a tag after a part of it that has been read; it is not empty. -/
def tagText (verbatim : Bool) (read : List Char) (cursor : Cursor)
    : Except Fault (List Char × Cursor) := do
  let (text, next) ← tagChars verbatim (cursor.rest.length + 1) [] cursor
  if read.isEmpty && text.isEmpty then throw .tagText
  return (read.drop 1 ++ text, next)

/-- Reads what may be the handle of a tag: an exclamation mark, a name, and perhaps another
exclamation mark. -/
def tagHandle (cursor : Cursor) : Except Fault (List Char × Cursor) :=
  if !cursor.sees '!' then .error .tagText
  else
    let (name, next) := (cursor.skip 1).takeWhile isNameChar
    if next.sees '!' then .ok ('!' :: name ++ ['!'], next.skip 1)
    else .ok ('!' :: name, next)

/-- A tag as it is written: a handle and what follows it. A tag without a handle stands for
itself. -/
structure WrittenTag where
  handle : String
  text : String
deriving DecidableEq, Repr

/-- Reads a tag. -/
def writtenTag (inFlow : Bool) (cursor : Cursor) : Except Fault (WrittenTag × Cursor) := do
  let (tag, next) ←
    if cursor.peek? 1 == some '<' then do
      let (text, next) ← tagText true [] (cursor.skip 2)
      if !next.sees '>' then throw .tagText
      pure ((⟨"", String.ofList text⟩ : WrittenTag), next.skip 1)
    else do
      let (handle, next) ← tagHandle cursor
      if 1 < handle.length && handle.getLast? == some '!' then do
        let (text, next) ← tagText false [] next
        pure ((⟨String.ofList handle, String.ofList text⟩ : WrittenTag), next)
      else do
        let (text, next) ← tagText false handle next
        if text.isEmpty then pure ((⟨"", "!"⟩ : WrittenTag), next)
        else pure ((⟨"!", String.ofList text⟩ : WrittenTag), next)
  if next.gapAt 0 || inFlow && next.sees ',' then return (tag, next) else throw .tagText

/-- A directive of a document. -/
inductive Directive where
  | version (major minor : Nat)
  | handle (handle expansion : String)
deriving DecidableEq, Repr

/-- Reads a number of a version. -/
def versionNumber (cursor : Cursor) : Except Fault (Nat × Cursor) :=
  let (digits, next) := cursor.takeWhile Char.isDigit
  if digits.isEmpty || 9 < digits.length then .error .directive
  else .ok (digits.foldl (fun number c => 10 * number + (c.toNat - 48)) 0, next)

/-- Reads the value of a directive. -/
def directiveValue (name : String) (cursor : Cursor) : Except Fault (Directive × Cursor) := do
  let cursor := cursor.skipWhile isBlank
  match name with
  | "YAML" =>
      let (major, next) ← versionNumber cursor
      if !next.sees '.' then throw .directive
      let (minor, next) ← versionNumber (next.skip 1)
      return (.version major minor, next)
  | "TAG" =>
      let (handle, next) ← tagHandle cursor
      if 1 < handle.length && handle.getLast? != some '!' then throw .directive
      if !next.seesAny isBlank then throw .directive
      let (expansion, next) ← tagText true [] (next.skipWhile isBlank)
      if !next.gapAt 0 then throw .directive
      return (.handle (String.ofList handle) (String.ofList expansion), next)
  | _ => throw .directive

/-- Reads a directive to the end of its line. -/
def directive (cursor : Cursor) : Except Fault (Directive × Cursor) := do
  let (name, next) := (cursor.skip 1).takeWhile isNameChar
  if name.isEmpty || !next.gapAt 0 then throw .directive
  let (read, next) ← directiveValue (String.ofList name) next
  let next := (next.skipWhile isBlank).skipComment
  if !next.atLineEnd then throw .directive
  return (read, next.skipBreak)

end Rehearsal.Yaml
