import Rehearsal.Yaml.Token

/-!
The nodes of a YAML document, put together from its tokens. Anchors and aliases are kept as they
are written, and what is left out is an empty scalar.
-/

namespace Rehearsal.Yaml

/-- A node. Anchors and aliases are given by references. -/
inductive Node (ref : Type) where
  | alias (target : ref)
  | scalar (anchor : Option ref) (tag : Option String) (plain : Bool) (text : String)
  | sequence (anchor : Option ref) (tag : Option String) (items : List (Node ref))
  | mapping (anchor : Option ref) (tag : Option String) (entries : List (Node ref × Node ref))
deriving Inhabited

namespace Node

/-- A scalar of which nothing is written. -/
def empty {ref : Type} (anchor : Option ref) (tag : Option String) : Node ref :=
  scalar anchor tag true ""

/-- What may stand before the content of a node. -/
structure Properties where
  anchor : Option String := none
  tag : Option WrittenTag := none

/-- Reads the properties of a node: an anchor and a tag in either order. -/
def properties : List Token → Properties × List Token
  | .anchor name :: .tag tag :: rest => (⟨some name, some tag⟩, rest)
  | .tag tag :: .anchor name :: rest => (⟨some name, some tag⟩, rest)
  | .anchor name :: rest => (⟨some name, none⟩, rest)
  | .tag tag :: rest => (⟨none, some tag⟩, rest)
  | tokens => ({}, tokens)

/-- The full text of a written tag. -/
def expandTag (handles : List (String × String)) (tag : WrittenTag) : Except Fault String :=
  if tag.handle.isEmpty then .ok tag.text
  else
    match handles.find? fun entry => entry.1 == tag.handle with
    | some entry => .ok (entry.2 ++ tag.text)
    | none => .error .unknownHandle

/-- Whether an item or value of a block is left out before a token. -/
def endsBlockItem (token : Option Token) : Bool :=
  token == some .blockEntry || token == some .blockEnd

/-- Whether a key or value of a block is left out before a token. -/
def endsBlockPart (token : Option Token) : Bool :=
  token == some .key || token == some .value || token == some .blockEnd

/-- Whether a part of a bracketed list or mapping is left out before a token. -/
def endsFlowPart (closing : Token) (token : Option Token) : Bool :=
  token == some .value || token == some .flowEntry || token == some closing

mutual

/-- Reads a node. In a block it may be a block itself, and as a part of a mapping it may be a
list that is not indented. -/
def ofTokens (handles : List (String × String))
    : Nat → Bool → Bool → List Token → Except Fault (Node String × List Token)
  | 0, _, _, _ => .error .content
  | _ + 1, _, _, .alias name :: rest => .ok (.alias name, rest)
  | fuel + 1, inBlock, unindented, tokens => do
      let (found, tokens) := properties tokens
      let anchor := found.anchor
      let tag ← found.tag.mapM (expandTag handles)
      match tokens with
      | .blockEntry :: _ =>
          if unindented then
            let (items, rest) ← unindentedItems handles fuel tokens
            return (.sequence anchor tag items, rest)
          else leftOut anchor tag tokens
      | .scalar plain text :: rest =>
          return (.scalar anchor (if tag == some "!" then none else tag) plain text, rest)
      | .flowSequenceStart :: rest =>
          let (items, rest) ← flowItems handles fuel true rest
          return (.sequence anchor tag items, rest)
      | .flowMappingStart :: rest =>
          let (entries, rest) ← flowEntries handles fuel true rest
          return (.mapping anchor tag entries, rest)
      | .blockSequenceStart :: rest =>
          if inBlock then
            let (items, rest) ← blockItems handles fuel rest
            return (.sequence anchor tag items, rest)
          else leftOut anchor tag tokens
      | .blockMappingStart :: rest =>
          if inBlock then
            let (entries, rest) ← blockEntries handles fuel rest
            return (.mapping anchor tag entries, rest)
          else leftOut anchor tag tokens
      | _ => leftOut anchor tag tokens
where
  /-- A node without content, which needs a property. -/
  leftOut (anchor : Option String) (tag : Option String) (tokens : List Token)
      : Except Fault (Node String × List Token) :=
    if anchor.isSome || tag.isSome then .ok (empty anchor tag, tokens) else .error .content

/-- Reads the items of a block. -/
def blockItems (handles : List (String × String))
    : Nat → List Token → Except Fault (List (Node String) × List Token)
  | 0, _ => .error .content
  | _ + 1, .blockEnd :: rest => .ok ([], rest)
  | fuel + 1, .blockEntry :: rest => do
      let (item, rest) ←
        if endsBlockItem rest.head? then pure (empty none none, rest)
        else ofTokens handles fuel true false rest
      let (items, rest) ← blockItems handles fuel rest
      return (item :: items, rest)
  | _ + 1, _ => .error .indentation

/-- Reads the items of a list that is not indented. -/
def unindentedItems (handles : List (String × String))
    : Nat → List Token → Except Fault (List (Node String) × List Token)
  | 0, _ => .error .content
  | fuel + 1, .blockEntry :: rest => do
      let (item, rest) ←
        if endsBlockItem rest.head? || endsBlockPart rest.head? then pure (empty none none, rest)
        else ofTokens handles fuel true false rest
      let (items, rest) ← unindentedItems handles fuel rest
      return (item :: items, rest)
  | _ + 1, tokens => .ok ([], tokens)

/-- Reads the entries of a block. -/
def blockEntries (handles : List (String × String))
    : Nat → List Token → Except Fault (List (Node String × Node String) × List Token)
  | 0, _ => .error .content
  | _ + 1, .blockEnd :: rest => .ok ([], rest)
  | fuel + 1, .key :: rest => do
      let (key, rest) ←
        if endsBlockPart rest.head? then pure (empty none none, rest)
        else ofTokens handles fuel true true rest
      let (value, rest) ←
        match rest with
        | .value :: rest =>
            if endsBlockPart rest.head? then pure (empty none none, rest)
            else ofTokens handles fuel true true rest
        | _ => pure (empty none none, rest)
      let (entries, rest) ← blockEntries handles fuel rest
      return ((key, value) :: entries, rest)
  | _ + 1, _ => .error .keyExpected

/-- Reads the items of a bracketed list. An item may be a mapping of one entry. -/
def flowItems (handles : List (String × String))
    : Nat → Bool → List Token → Except Fault (List (Node String) × List Token)
  | 0, _, _ => .error .content
  | _ + 1, _, .flowSequenceEnd :: rest => .ok ([], rest)
  | fuel + 1, isFirst, tokens => do
      let tokens ←
        if isFirst then pure tokens
        else
          match tokens with
          | .flowEntry :: rest => pure rest
          | _ => throw .unclosed
      match tokens with
      | .flowSequenceEnd :: rest => return ([], rest)
      | .key :: rest =>
          let (entry, rest) ← flowPair handles fuel rest
          let (items, rest) ← flowItems handles fuel false rest
          return (.mapping none none [entry] :: items, rest)
      | _ =>
          let (item, rest) ← ofTokens handles fuel false false tokens
          let (items, rest) ← flowItems handles fuel false rest
          return (item :: items, rest)

/-- Reads the only entry of a mapping within a bracketed list. Where the key is left out, so is
the token that follows it. -/
def flowPair (handles : List (String × String))
    : Nat → List Token → Except Fault ((Node String × Node String) × List Token)
  | 0, _ => .error .content
  | fuel + 1, tokens => do
      let (key, rest) ←
        if tokens.isEmpty then throw .unclosed
        else if endsFlowPart .flowSequenceEnd tokens.head? then
          pure (empty none none, tokens.drop 1)
        else ofTokens handles fuel false false tokens
      let (value, rest) ←
        match rest with
        | .value :: rest =>
            if rest.head? == some .flowEntry || rest.head? == some .flowSequenceEnd then
              pure (empty none none, rest)
            else ofTokens handles fuel false false rest
        | _ => pure (empty none none, rest)
      return ((key, value), rest)

/-- Reads the entries of a bracketed mapping. -/
def flowEntries (handles : List (String × String))
    : Nat → Bool → List Token → Except Fault (List (Node String × Node String) × List Token)
  | 0, _, _ => .error .content
  | _ + 1, _, .flowMappingEnd :: rest => .ok ([], rest)
  | fuel + 1, isFirst, tokens => do
      let tokens ←
        if isFirst then pure tokens
        else
          match tokens with
          | .flowEntry :: rest => pure rest
          | _ => throw .unclosed
      match tokens with
      | .flowMappingEnd :: rest => return ([], rest)
      | .key :: rest =>
          let (key, rest) ←
            if endsFlowPart .flowMappingEnd rest.head? then pure (empty none none, rest)
            else ofTokens handles fuel false false rest
          let (value, rest) ←
            match rest with
            | .value :: rest =>
                if rest.head? == some .flowEntry || rest.head? == some .flowMappingEnd then
                  pure (empty none none, rest)
                else ofTokens handles fuel false false rest
            | _ => pure (empty none none, rest)
          let (entries, rest) ← flowEntries handles fuel false rest
          return ((key, value) :: entries, rest)
      | _ =>
          let (key, rest) ← ofTokens handles fuel false false tokens
          let (entries, rest) ← flowEntries handles fuel false rest
          return ((key, empty none none) :: entries, rest)

end

end Node

end Rehearsal.Yaml
