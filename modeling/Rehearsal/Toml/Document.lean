import Rehearsal.Toml.Text
import Rehearsal.Toml.Value

/-!
TOML documents: lines that give keys values, under headers that begin tables. No key is given a
value twice.
-/

namespace Rehearsal.Toml

/-- Whether a character may stand in a key without marks. -/
def isBare (c : Char) : Bool :=
  c.isAlphanum || c == '_' || c == '-'

/-- Reads one part of a key. -/
def keyPart : Reading String := do
  match ← get with
  | '"' :: '"' :: '"' :: _ | '\'' :: '\'' :: '\'' :: _ => throw .key
  | '"' :: _ | '\'' :: _ => textLine
  | _ =>
      let bare ← takeWhile isBare
      if bare.isEmpty then throw .key
      return String.ofList bare

/-- Reads the parts of a key, with blanks around each: those before the last, and the last. -/
def keyPath : Nat → Reading (List String × String)
  | 0 => throw .key
  | fuel + 1 => do
      skipSpaces
      let part ← keyPart
      skipSpaces
      match ← get with
      | '.' :: rest =>
          set rest
          let (path, last) ← keyPath fuel
          return (part :: path, last)
      | _ => return ([], part)

/-- Reads a dotted key. -/
def dottedKey : Reading (List String × String) := do
  keyPath ((← get).length + 1)

/-- Reads a character that must stand here. -/
def expect (c : Char) (fault : Fault) : Reading Unit := do
  match ← get with
  | d :: rest => if c == d then set rest else throw fault
  | [] => throw fault

/-- Whether a character belongs to a value without marks. -/
def isAtom (c : Char) : Bool :=
  isPrintable c && !isSpace c && !",[]\x7b\x7d='\"#".toList.contains c

/-- Reads a value without marks. A date and a time of day may stand apart. -/
def atom : Reading Value := do
  let first ← takeWhile isAtom
  let rest ← get
  let written ←
    match date? first, rest with
    | some [], ' ' :: c :: _ =>
        if Decimal.isDigit c then do
          skip 1
          pure (first ++ [' '] ++ (← takeWhile isAtom))
        else pure first
    | _, _ => pure first
  match String.ofList written with
  | "true" => return .bool true
  | "false" => return .bool false
  | shown =>
      match whole? written, real? written with
      | some value, _ => return .integer value
      | none, some value => return .real value
      | none, none => if isMoment written then return .moment shown else throw .value

mutual

/-- Reads a value, in which arrays and tables lie up to a depth. -/
def value : Nat → Nat → Reading Value
  | 0, _ => throw .value
  | fuel + 1, depth => do
      match ← get with
      | '"' :: _ | '\'' :: _ => return .string (← text)
      | '[' :: rest =>
          set rest
          match depth with
          | 0 => throw .depth
          | depth + 1 => return .array (← items fuel depth)
      | '\x7b' :: rest =>
          set rest
          match depth with
          | 0 => throw .depth
          | depth + 1 => return .table .inlined (← entries fuel depth [])
      | _ => atom

/-- Reads the items of an array. -/
def items : Nat → Nat → Reading (List Value)
  | 0, _ => throw .unclosed
  | fuel + 1, depth => do
      skipLines
      match ← get with
      | ']' :: rest => set rest; return []
      | _ =>
          let item ← value fuel depth
          skipLines
          match ← get with
          | ']' :: rest => set rest; return [item]
          | ',' :: rest => set rest; return item :: (← items fuel depth)
          | _ => throw .unclosed

/-- Reads the entries of a table between braces, after some that have been read. -/
def entries : Nat → Nat → Entries → Reading Entries
  | 0, _, _ => throw .unclosed
  | fuel + 1, depth, read => do
      skipLines
      match ← get with
      | '\x7d' :: rest => set rest; return read
      | _ =>
          let (path, key) ← dottedKey
          expect '=' .key
          skipSpaces
          let found ← value fuel depth
          let read ← read.add path key found
          skipLines
          match ← get with
          | '\x7d' :: rest => set rest; return read
          | ',' :: rest => set rest; entries fuel depth read
          | _ => throw .unclosed

end

/-- The greatest depth of arrays and tables between braces. -/
def depthLimit : Nat := 80

/-- What has been read of a document: the tables, and the path of the table that lines add to. -/
structure Draft where
  root : Entries := []
  header : List String := []

/-- Reads a header behind its first bracket. -/
def header (draft : Draft) : Reading Draft := do
  match ← get with
  | '[' :: rest =>
      set rest
      let (path, key) ← dottedKey
      expect ']' .key
      expect ']' .key
      return { root := ← draft.root.defineNext path key, header := path ++ [key] }
  | _ =>
      let (path, key) ← dottedKey
      expect ']' .key
      return { root := ← draft.root.define path key, header := path ++ [key] }

/-- Reads a key and its value. -/
def assignment (draft : Draft) : Reading Draft := do
  let (path, key) ← dottedKey
  expect '=' .key
  skipSpaces
  let found ← value (2 * (← get).length + 2) depthLimit
  let root ← draft.root.change false (fun _ inner => inner.add path key found) draft.header .defined
  return { draft with root }

/-- Reads lines to the end of the text. -/
def lines : Nat → Draft → Reading Draft
  | 0, _ => throw .lineEnd
  | fuel + 1, draft => do
      skipLines
      match ← get with
      | [] => return draft
      | '[' :: rest =>
          set rest
          let draft ← header draft
          endLine
          lines fuel draft
      | _ =>
          let draft ← assignment draft
          endLine
          lines fuel draft

/-- The entries of the document that a text is. A mark of byte order may begin it. -/
def Entries.ofText (text : String) : Except Fault Entries := do
  let chars :=
    match text.toList with
    | '\ufeff' :: rest => rest
    | chars => chars
  let (draft, _) ← (lines (chars.length + 1) {}).run chars
  if entriesHeld draft.root then return draft.root else throw .size

end Rehearsal.Toml
