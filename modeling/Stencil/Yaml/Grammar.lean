import Stencil.Yaml.Node
import Stencil.Yaml.Token

/-!
# From tokens to nodes

The grammar of YAML over its tokens. A node is an alias, or properties followed
by content; properties alone, and an entry with nothing in it, stand for an empty
plain scalar. A text holds at most one document: directives may precede it if a
document mark follows them, and a text without a document is an empty scalar.
-/

namespace Stencil.Yaml.Grammar

/-- Handles and what they stand for in tags. -/
abbrev Handles := Keyed Text

/-- The empty plain scalar, which stands where nothing is written. -/
def emptyScalar : Node Text := .scalar ⟨none, none⟩ [] true

/-! ## Properties -/

/-- The tag that a `handle` and a `suffix` make; `none` if the handle stands for nothing. -/
def tag? (handles : Handles) (handle suffix : Text) : Option Text :=
  if handle = [] then some suffix else (handles.get? handle).map (· ++ suffix)

/-- The anchor and the tag, by `tag?`, at the front of the tokens in either order, and what follows
them. -/
def properties? (handles : Handles) : List Token → Option (Properties Text × List Token)
  | .anchor name :: .tag handle suffix :: rest =>
    (tag? handles handle suffix).map fun tag => (⟨some name, some tag⟩, rest)
  | .tag handle suffix :: .anchor name :: rest =>
    (tag? handles handle suffix).map fun tag => (⟨some name, some tag⟩, rest)
  | .anchor name :: rest => some (⟨some name, none⟩, rest)
  | .tag handle suffix :: rest =>
    (tag? handles handle suffix).map fun tag => (⟨none, some tag⟩, rest)
  | rest => some (⟨none, none⟩, rest)

/-! ## Nodes

The first number bounds the depth of the recursion. -/

mutual

/-- A node at the front of the tokens, `properties?` before its content, and what follows it. With
`block` it may be a block collection, and with `unindented` a sequence that is not indented. -/
def node? (handles : Handles) (block unindented : Bool) :
    Nat → List Token → Option (Node Text × List Token)
  | 0, _ => none
  | _ + 1, .alias name :: rest => some (.alias name, rest)
  | bound + 1, tokens => do
    let (properties, content) ← properties? handles tokens
    match content with
    | .scalar text plain :: rest => return (.scalar properties text plain, rest)
    | .flowSequenceStart :: rest =>
      let (items, rest) ← flowItems? handles true bound rest
      return (.sequence properties items, rest)
    | .flowMappingStart :: rest =>
      let (entries, rest) ← flowEntries? handles true bound rest
      return (.mapping properties entries, rest)
    | .blockEntry :: _ =>
      if unindented then
        let (items, rest) ← unindentedItems? handles bound content
        return (.sequence properties items, rest)
      else emptyNode? properties content
    | .blockSequenceStart :: rest =>
      if block then
        let (items, rest) ← blockItems? handles bound rest
        return (.sequence properties items, rest)
      else emptyNode? properties content
    | .blockMappingStart :: rest =>
      if block then
        let (entries, rest) ← blockEntries? handles bound rest
        return (.mapping properties entries, rest)
      else emptyNode? properties content
    | _ => emptyNode? properties content

/-- The `properties` without content are an empty scalar; `none` if they are empty too. -/
def emptyNode? (properties : Properties Text) (rest : List Token) :
    Option (Node Text × List Token) :=
  if properties.anchor.isSome || properties.tag.isSome then
    some (.scalar properties [] true, rest)
  else none

/-- The items of a block sequence, each a `node?` or an `emptyScalar`, up to its end. -/
def blockItems? (handles : Handles) : Nat → List Token → Option (List (Node Text) × List Token)
  | 0, _ => none
  | _ + 1, .blockEnd :: rest => some ([], rest)
  | bound + 1, .blockEntry :: rest => do
    let (item, rest) ← match rest with
      | .blockEntry :: _ => some (emptyScalar, rest)
      | .blockEnd :: _ => some (emptyScalar, rest)
      | _ => node? handles true false bound rest
    let (items, rest) ← blockItems? handles bound rest
    return (item :: items, rest)
  | _ + 1, _ => none

/-- The items of a sequence that is not indented, each a `node?` or an `emptyScalar`, up to
something else. -/
def unindentedItems? (handles : Handles) :
    Nat → List Token → Option (List (Node Text) × List Token)
  | 0, _ => none
  | bound + 1, .blockEntry :: rest => do
    let (item, rest) ← match rest with
      | .blockEntry :: _ => some (emptyScalar, rest)
      | .key :: _ => some (emptyScalar, rest)
      | .value :: _ => some (emptyScalar, rest)
      | .blockEnd :: _ => some (emptyScalar, rest)
      | _ => node? handles true false bound rest
    let (items, rest) ← unindentedItems? handles bound rest
    return (item :: items, rest)
  | _ + 1, rest => some ([], rest)

/-- A key or a value of a block mapping behind its mark: a `node?`, or an `emptyScalar` where
another mark follows. -/
def blockPart? (handles : Handles) (bound : Nat) (tokens : List Token) :
    Option (Node Text × List Token) :=
  match bound with
  | 0 => none
  | bound + 1 =>
    match tokens with
    | .key :: _ => some (emptyScalar, tokens)
    | .value :: _ => some (emptyScalar, tokens)
    | .blockEnd :: _ => some (emptyScalar, tokens)
    | _ => node? handles true true bound tokens

/-- The entries of a block mapping, a `blockPart?` for key and value, up to its end. -/
def blockEntries? (handles : Handles) :
    Nat → List Token → Option (List (Node Text × Node Text) × List Token)
  | 0, _ => none
  | _ + 1, .blockEnd :: rest => some ([], rest)
  | bound + 1, .key :: rest => do
    let (key, rest) ← blockPart? handles bound rest
    let (value, rest) ← match rest with
      | .value :: rest => blockPart? handles bound rest
      | _ => some (emptyScalar, rest)
    let (entries, rest) ← blockEntries? handles bound rest
    return ((key, value) :: entries, rest)
  | _ + 1, _ => none

/-- The value of a pair in a flow collection, an `emptyScalar` where nothing stands before the next
comma or `closing`. -/
def flowValue? (handles : Handles) (bound : Nat) (closing : Token) (tokens : List Token) :
    Option (Node Text × List Token) :=
  match bound with
  | 0 => none
  | bound + 1 =>
    match tokens with
    | .value :: rest =>
      match rest with
      | .flowEntry :: _ => some (emptyScalar, rest)
      | token :: _ =>
        if token = closing then some (emptyScalar, rest) else node? handles false false bound rest
      | [] => none
    | _ => some (emptyScalar, tokens)

/-- The items of a flow sequence, up to its end; all but the `first` follow a comma. An item with a
key mark is a mapping of one entry. If nothing stands between that mark and a value mark, a comma or
the end of the sequence, the key is an `emptyScalar` and that token is passed over. -/
def flowItems? (handles : Handles) (first : Bool) :
    Nat → List Token → Option (List (Node Text) × List Token)
  | 0, _ => none
  | _ + 1, .flowSequenceEnd :: rest => some ([], rest)
  | bound + 1, tokens => do
    let tokens ← match first, tokens with
      | true, _ => some tokens
      | false, .flowEntry :: rest => some rest
      | false, _ => none
    match tokens with
    | .flowSequenceEnd :: rest => return ([], rest)
    | .key :: rest =>
      let (key, rest) ← match rest with
        | .value :: rest => some (emptyScalar, rest)
        | .flowEntry :: rest => some (emptyScalar, rest)
        | .flowSequenceEnd :: rest => some (emptyScalar, rest)
        | _ => node? handles false false bound rest
      let (value, rest) ← flowValue? handles bound .flowSequenceEnd rest
      let (items, rest) ← flowItems? handles false bound rest
      return (.mapping ⟨none, none⟩ [(key, value)] :: items, rest)
    | _ =>
      let (item, rest) ← node? handles false false bound tokens
      let (items, rest) ← flowItems? handles false bound rest
      return (item :: items, rest)

/-- The entries of a flow mapping, up to its end; all but the `first` follow a comma. A node without
a key mark is a key whose value is an `emptyScalar`. -/
def flowEntries? (handles : Handles) (first : Bool) :
    Nat → List Token → Option (List (Node Text × Node Text) × List Token)
  | 0, _ => none
  | _ + 1, .flowMappingEnd :: rest => some ([], rest)
  | bound + 1, tokens => do
    let tokens ← match first, tokens with
      | true, _ => some tokens
      | false, .flowEntry :: rest => some rest
      | false, _ => none
    match tokens with
    | .flowMappingEnd :: rest => return ([], rest)
    | .key :: rest =>
      let (key, rest) ← match rest with
        | .value :: _ => some (emptyScalar, rest)
        | .flowEntry :: _ => some (emptyScalar, rest)
        | .flowMappingEnd :: _ => some (emptyScalar, rest)
        | _ => node? handles false false bound rest
      let (value, rest) ← flowValue? handles bound .flowMappingEnd rest
      let (entries, rest) ← flowEntries? handles false bound rest
      return ((key, value) :: entries, rest)
    | _ =>
      let (key, rest) ← node? handles false false bound tokens
      let (entries, rest) ← flowEntries? handles false bound rest
      return ((key, emptyScalar) :: entries, rest)

end

/-! ## Documents -/

/-- The handles that every document knows. -/
def commonHandles : Handles :=
  [(['!'], ['!']), (['!', '!'], "tag:yaml.org,2002:".toList)]

/-- The directives before a document: the `handles` that they define, and what follows them. At most
one of them gives the version, after which `versioned` holds and which has to be 1.1 or 1.2, and
none defines a handle again. -/
def directives? (versioned : Bool) (handles : Handles) :
    List Token → Option (Handles × List Token)
  | .versionDirective major minor :: rest =>
    if versioned ∨ major ≠ 1 ∨ (minor ≠ 1 ∧ minor ≠ 2) then none
    else directives? true handles rest
  | .tagDirective handle expansion :: rest =>
    if (handles.get? handle).isSome then none
    else directives? versioned (handles.put handle expansion) rest
  | rest => some (handles, rest)

/-- The token can only come before or after a document. -/
def isOutside : Token → Bool
  | .versionDirective _ _ => true
  | .tagDirective _ _ => true
  | .documentStart => true
  | .documentEnd => true
  | .streamEnd => true
  | _ => false

/-- The tokens hold nothing more than `documentEnd` marks before the end. -/
def isOver : List Token → Bool
  | .documentEnd :: rest => isOver rest
  | [.streamEnd] => true
  | _ => false

/-- A document behind its document mark: an `emptyScalar` before a token that `isOutside`, and else
a `node?`. -/
def content? (handles : Handles) : List Token → Option (Node Text × List Token)
  | [] => none
  | token :: rest =>
    if isOutside token then some (emptyScalar, token :: rest)
    else node? handles true false (4 * rest.length + 8) (token :: rest)

/-- The single document of a text: `directives?` and a document mark before its `content?`, or a
`node?` alone; `none` unless the tokens behind it satisfy `isOver`. -/
def document? (tokens : List Token) : Option (Node Text) := do
  let common (handles : Handles) : Handles :=
    commonHandles.foldl (fun all entry =>
      if (all.get? entry.1).isSome then all else all.put entry.1 entry.2) handles
  let (node, rest) ← match tokens with
    | .streamEnd :: _ => some (emptyScalar, tokens)
    | .versionDirective _ _ :: _ | .tagDirective _ _ :: _ | .documentStart :: _ => do
      let (handles, rest) ← directives? false [] tokens
      match rest with
      | .documentStart :: rest => content? (common handles) rest
      | _ => none
    | _ => node? commonHandles true false (4 * tokens.length + 8) tokens
  if isOver rest then some node else none

end Stencil.Yaml.Grammar
