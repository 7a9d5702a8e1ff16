import Rehearsal.Yaml.Node
import Rehearsal.Yaml.Value

/-!
YAML documents: the value of a text that holds one document. Aliases stand for what is anchored,
keys of a mapping differ, and neither depth nor repetition is unlimited.
-/

namespace Rehearsal.Yaml

/-- The handles that are known without a directive. -/
def defaultHandles : List (String × String) :=
  [("!", "!"), ("!!", "tag:yaml.org,2002:")]

/-- Reads the directives of a document: at most one version, and each handle once. -/
def readDirectives (version : Bool) (handles : List (String × String))
    : List Token → Except Fault (List (String × String) × List Token)
  | .directive (.version major minor) :: rest =>
      if version || major != 1 || (minor != 1 && minor != 2) then .error .directive
      else readDirectives true handles rest
  | .directive (.handle handle expansion) :: rest =>
      if handles.any fun entry => entry.1 == handle then .error .directive
      else readDirectives version (handles ++ [(handle, expansion)]) rest
  | tokens => .ok (handles, tokens)

/-- Whether a document has no content before a token. -/
def endsDocument : Option Token → Bool
  | none | some (.directive _) | some .documentStart | some .documentEnd => true
  | _ => false

/-- Reads the content of a document, behind which nothing may follow. -/
def readContent (handles : List (String × String)) (tokens : List Token)
    : Except Fault (Node String) := do
  let (node, rest) ←
    Node.ofTokens (handles ++ defaultHandles) (4 * tokens.length + 8) true false tokens
  if (rest.dropWhile (· == .documentEnd)).isEmpty then return node else throw .trailing

/-- The root of the only document of a text. -/
def readRoot (tokens : List Token) : Except Fault (Node String) :=
  match tokens with
  | [] => .ok (Node.empty none none)
  | .directive _ :: _ | .documentStart :: _ => do
      let (handles, rest) ← readDirectives false [] tokens
      match rest with
      | .documentStart :: rest =>
          if endsDocument rest.head? then
            if (rest.dropWhile (· == .documentEnd)).isEmpty then return Node.empty none none
            else throw .trailing
          else readContent handles rest
      | _ => throw .documentMark
  | _ => readContent [] tokens

namespace Node

/-- Gives an anchor a number: the count of the names known before it. A name that is used again
stands for the latest number. -/
def enroll (names : List (String × Nat)) (anchor : Option String)
    : Option Nat × List (String × Nat) :=
  match anchor with
  | none => (none, names)
  | some name =>
      let number := names.length
      let others := names.filter fun entry => entry.1 != name
      (some number, (name, number) :: others)

mutual

/-- Replaces the names of anchors by numbers. An alias must follow an anchor of its name. -/
def numbered (names : List (String × Nat))
    : Node String → Except Fault (Node Nat × List (String × Nat))
  | .alias name =>
      match names.find? fun entry => entry.1 == name with
      | some entry => .ok (.alias entry.2, names)
      | none => .error .unknownAnchor
  | .scalar anchor tag plain text =>
      let (anchor, names) := enroll names anchor
      .ok (.scalar anchor tag plain text, names)
  | .sequence anchor tag items => do
      let (anchor, names) := enroll names anchor
      let (items, names) ← numberedItems names items
      return (.sequence anchor tag items, names)
  | .mapping anchor tag entries => do
      let (anchor, names) := enroll names anchor
      let (entries, names) ← numberedEntries names entries
      return (.mapping anchor tag entries, names)

/-- The same for items. -/
def numberedItems (names : List (String × Nat))
    : List (Node String) → Except Fault (List (Node Nat) × List (String × Nat))
  | [] => .ok ([], names)
  | item :: rest => do
      let (item, names) ← numbered names item
      let (rest, names) ← numberedItems names rest
      return (item :: rest, names)

/-- The same for entries. -/
def numberedEntries (names : List (String × Nat))
    : List (Node String × Node String)
    → Except Fault (List (Node Nat × Node Nat) × List (String × Nat))
  | [] => .ok ([], names)
  | (key, value) :: rest => do
      let (key, names) ← numbered names key
      let (value, names) ← numbered names value
      let (rest, names) ← numberedEntries names rest
      return ((key, value) :: rest, names)

end

mutual

/-- The anchored nodes by their numbers, in document order. -/
def anchored : Node Nat → List (Nat × Node Nat)
  | .alias _ => []
  | .scalar anchor tag plain text =>
      anchor.toList.map fun number => (number, .scalar anchor tag plain text)
  | .sequence anchor tag items =>
      (anchor.toList.map fun number => (number, .sequence anchor tag items))
        ++ anchoredItems items
  | .mapping anchor tag entries =>
      (anchor.toList.map fun number => (number, .mapping anchor tag entries))
        ++ anchoredEntries entries

/-- The same for items. -/
def anchoredItems : List (Node Nat) → List (Nat × Node Nat)
  | [] => []
  | item :: rest => anchored item ++ anchoredItems rest

/-- The same for entries. -/
def anchoredEntries : List (Node Nat × Node Nat) → List (Nat × Node Nat)
  | [] => []
  | (key, value) :: rest => anchored key ++ anchored value ++ anchoredEntries rest

end

mutual

/-- The number of parts of a document: nodes, and the ends of lists and mappings. -/
def parts : Node Nat → Nat
  | .alias _ | .scalar _ _ _ _ => 1
  | .sequence _ _ items => partsItems items + 2
  | .mapping _ _ entries => partsEntries entries + 2

/-- The same for items. -/
def partsItems : List (Node Nat) → Nat
  | [] => 0
  | item :: rest => parts item + partsItems rest

/-- The same for entries. -/
def partsEntries : List (Node Nat × Node Nat) → Nat
  | [] => 0
  | (key, value) :: rest => parts key + parts value + partsEntries rest

end

end Node

/-- A document whose values are looked up: the anchored nodes, and how often aliases may be
followed. -/
structure Anchors where
  nodes : List (Nat × Node Nat)
  limit : Nat

/-- Reading values while counting how often an alias was followed. -/
abbrev Reading := StateT Nat (Except Fault)

/-- The node that an alias stands for, if a node is one, and whether it was. -/
def Anchors.follow (anchors : Anchors) (node : Node Nat) : Reading (Node Nat × Bool) :=
  match node with
  | .alias number => do
      let jumps ← get
      if anchors.limit < jumps + 1 then throw .repetition
      set (jumps + 1)
      match anchors.nodes.reverse.find? fun entry => entry.1 == number with
      | some entry => return (entry.2, true)
      | none => throw .unknownAnchor
  | _ => return (node, false)

/-- The name of a tag that a document makes up itself. -/
def localName? (tag : Option String) : Option String :=
  match tag.map String.toList with
  | some ['!'] => some "!"
  | some ('!' :: name) => some (String.ofList name)
  | _ => none

/-- The value of a local tag's content. -/
def labelled (name : Option String) (value : Value) : Value :=
  match name with
  | some name => .tagged name value
  | none => value

/-- Adds entries one after another; no key may stand twice. -/
def addEntries (key value : Node Nat → Reading Value) (entries : List (Value × Value))
    : List (Node Nat × Node Nat) → Reading (List (Value × Value))
  | [] => return entries
  | entry :: rest => do
      let found ← key entry.1
      if entries.any fun other => other.1.same found then throw .duplicateKey
      let content ← value entry.2
      addEntries key value (entries ++ [(found, content)]) rest

/-- The value of a node, up to a depth of lists and mappings. The keys of a mapping with a local
tag have no local tags. -/
def Anchors.valueOf (anchors : Anchors) : Nat → Bool → Node Nat → Reading Value
  | depth, bare, node => do
      let (node, followed) ← anchors.follow node
      let bare := bare && !followed
      let name (tag : Option String) : Option String := if bare then none else localName? tag
      match node with
      | .alias _ => throw .unknownAnchor
      | .scalar _ tag plain text =>
          let isLocal := (localName? tag).isSome
          let inner := if isLocal || bare then none else tag
          return labelled (name tag) (← Value.ofScalar inner plain text)
      | .sequence _ tag items =>
          match depth with
          | 0 => throw .depth
          | depth + 1 =>
              return labelled (name tag) (.sequence (← items.mapM (anchors.valueOf depth false)))
      | .mapping _ tag entries =>
          match depth with
          | 0 => throw .depth
          | depth + 1 =>
              let keyless := bare || (name tag).isSome
              let found ←
                addEntries (anchors.valueOf depth keyless) (anchors.valueOf depth false) [] entries
              return labelled (name tag) (.mapping found)

/-- The greatest depth of lists and mappings. -/
def depthLimit : Nat := 128

/-- The value of a text that holds at most one document. -/
def Value.ofText (text : String) : Except Fault Value := do
  let root ← readRoot (← Token.ofText text)
  let (root, _) ← root.numbered []
  let anchors : Anchors := ⟨root.anchored, root.parts * 100⟩
  let (value, _) ← (anchors.valueOf depthLimit false root).run 0
  return value

end Rehearsal.Yaml
