import Stencil.Yaml.Flow
import Stencil.Yaml.Block
import Stencil.Yaml.Property

/-!
# From YAML text to tokens

Tokens are read one after the other, with two kinds of bookkeeping. Indentation:
a token that stands further right than the block around it may begin a block, and
one that stands further left ends every block it has left. Keys: whether a node
is the key of a mapping shows only when a colon follows it, so the place where a
node begins is kept as a possible key, and the token that marks the key is put in
there once the colon is found. A possible key has to be followed by its colon on
the same line and within 1024 characters. Where a block mapping can only go on
with a key, a node that turns out to be none is an error.
-/

namespace Stencil.Yaml

/-- The beginning of a node that may turn out to be a key: `tokensBefore` counts the tokens before
it, and `required` tells whether it has to be a key. -/
structure PossibleKey where
  tokensBefore : Nat
  index : Nat
  line : Nat
  column : Nat
  required : Bool

/-- What has been read of a text. -/
structure Reader where
  /-- What is left to read. -/
  source : Source
  /-- The tokens read so far. -/
  tokens : Array Token := #[]
  /-- The column of the innermost block, -1 outside of all blocks. -/
  indent : Int := -1
  /-- The columns of the blocks around it, from the inside. -/
  outer : List Int := []
  /-- The possible key at the level of the innermost flow collection. -/
  key : Option PossibleKey := none
  /-- The possible keys at the levels around it, one for each flow collection. -/
  outerKeys : List (Option PossibleKey) := []
  /-- A node that begins here may be a key. -/
  keyAllowed : Bool := true

namespace Reader

/-- The place to read from lies inside a flow collection: there are `outerKeys`. -/
def inFlow (reader : Reader) : Bool := !reader.outerKeys.isEmpty

/-- Adds a `token` that ends at the place `source`. -/
def push (token : Token) (source : Source) (reader : Reader) : Reader :=
  { reader with tokens := reader.tokens.push token, source := source }

/-- Sets by `keyAllowed` whether a node that begins next may be a key. -/
def allowKey (allowed : Bool) (reader : Reader) : Reader :=
  { reader with keyAllowed := allowed }

/-! ## Indentation -/

/-- Begins a block at a `column` that lies further right than the innermost one; its `token` goes
before the others from number `position` on. -/
def indentTo (column : Nat) (position : Nat) (token : Token) (reader : Reader) : Reader :=
  if !reader.inFlow && reader.indent < column then
    { reader with
      indent := column
      outer := reader.indent :: reader.outer
      tokens := reader.tokens.insertIdxIfInBounds position token }
  else reader

/-- Ends the blocks of the given columns, the innermost first, that lie further
right than `column`: the tokens, and the column and the outer columns that stay. -/
def endBlocks (column : Int) :
    Int → List Int → Array Token → Int × List Int × Array Token
  | indent, [], tokens => (indent, [], tokens)
  | indent, parent :: outer, tokens =>
    if column < indent then endBlocks column parent outer (tokens.push .blockEnd)
    else (indent, parent :: outer, tokens)

/-- Ends every block that lies further right than `column`. -/
def unindentTo (column : Int) (reader : Reader) : Reader :=
  if reader.inFlow then reader
  else
    let (indent, outer, tokens) := endBlocks column reader.indent reader.outer reader.tokens
    { reader with indent := indent, outer := outer, tokens := tokens }

/-! ## Possible keys -/

/-- Gives up the possible key of the innermost level; `none` if it is `required`. -/
def dropKey? (reader : Reader) : Option Reader :=
  if reader.key.any (·.required) then none else some { reader with key := none }

/-- A possible `key` can no longer be one at the place `source`, on another line or over 1024
characters on. -/
def PossibleKey.isStale (source : Source) (key : PossibleKey) : Bool :=
  key.line < source.line || key.index + 1024 < source.index

/-- A possible key, unless it `isStale`; `none` if a stale one is `required`. -/
def freshKey? (source : Source) : Option PossibleKey → Option (Option PossibleKey)
  | none => some none
  | some key =>
    if PossibleKey.isStale source key then (if key.required then none else some none)
    else some (some key)

/-- Gives up the possible keys of all levels that are no `freshKey?`. -/
def dropStaleKeys? (reader : Reader) : Option Reader := do
  let key ← freshKey? reader.source reader.key
  let outerKeys ← reader.outerKeys.mapM (freshKey? reader.source)
  return { reader with key := key, outerKeys := outerKeys }

/-- Keeps the place as that of a possible key, if `keyAllowed` says so; it is required where the
innermost block stands at the same column. -/
def saveKey? (reader : Reader) : Option Reader :=
  if reader.keyAllowed then do
    let source := reader.source
    let required := !reader.inFlow && reader.indent == (source.column : Int)
    let reader ← reader.dropKey?
    return { reader with
      key := some ⟨reader.tokens.size, source.index, source.line, source.column, required⟩ }
  else some reader

/-! ## Single tokens -/

/-- A `token` of its own line: the end of the text, a directive or the mark of a document, before
which every block ends by `unindentTo (-1)`. -/
def pushMark? (token : Token) (source : Source) (reader : Reader) : Option Reader := do
  let reader ← (reader.unindentTo (-1)).dropKey?
  return (reader.allowKey false).push token source

/-- The beginning of a flow collection, which may itself be a key (`saveKey?`). -/
def openFlow? (token : Token) (reader : Reader) : Option Reader := do
  let reader ← reader.saveKey?
  let reader := { reader with key := none, outerKeys := reader.key :: reader.outerKeys }
  return (reader.allowKey true).push token (reader.source.advance 1)

/-- The end of a flow collection: the possible key of the level around it is back from
`outerKeys`. -/
def closeFlow? (token : Token) (reader : Reader) : Option Reader := do
  let reader ← reader.dropKey?
  let reader := match reader.outerKeys with
    | [] => reader
    | key :: outerKeys => { reader with key := key, outerKeys := outerKeys }
  return (reader.allowKey false).push token (reader.source.advance 1)

/-- The comma between two entries of a flow collection. -/
def flowEntry? (reader : Reader) : Option Reader := do
  let reader ← reader.dropKey?
  return (reader.allowKey true).push .flowEntry (reader.source.advance 1)

/-- The dash before an entry of a block sequence, which `indentTo` its column may begin. -/
def blockEntry? (reader : Reader) : Option Reader := do
  if !reader.inFlow && !reader.keyAllowed then none
  let reader := reader.indentTo reader.source.column reader.tokens.size .blockSequenceStart
  let reader ← reader.dropKey?
  return (reader.allowKey true).push .blockEntry (reader.source.advance 1)

/-- The question mark before a key of a mapping, which `indentTo` its column may begin. -/
def explicitKey? (reader : Reader) : Option Reader := do
  if !reader.inFlow && !reader.keyAllowed then none
  let reader := reader.indentTo reader.source.column reader.tokens.size .blockMappingStart
  let reader ← reader.dropKey?
  return (reader.allowKey !reader.inFlow).push .key (reader.source.advance 1)

/-- The colon before a value: the possible key becomes a key, if there is one. -/
def valueMark? (reader : Reader) : Option Reader :=
  match reader.key with
  | some key =>
    let marked := { reader with
      tokens := reader.tokens.insertIdxIfInBounds key.tokensBefore .key, key := none }
    let indented := marked.indentTo key.column key.tokensBefore .blockMappingStart
    some ((indented.allowKey false).push .value (reader.source.advance 1))
  | none =>
    if !reader.inFlow && !reader.keyAllowed then none
    else
      let indented := reader.indentTo reader.source.column reader.tokens.size .blockMappingStart
      some ((indented.allowKey !reader.inFlow).push .value (reader.source.advance 1))

/-- A token that may be a key or a part of one, read by `read?`. -/
def nodeToken? (read? : Source → Option (Token × Source)) (reader : Reader) : Option Reader := do
  let reader ← reader.saveKey?
  let (token, source) ← read? reader.source
  return (reader.allowKey false).push token source

/-- A block scalar, read by `blockScalar?`, after which a key may begin. -/
def blockScalarToken? (literal : Bool) (reader : Reader) : Option Reader := do
  let reader ← reader.dropKey?
  let (content, source) ← blockScalar? literal reader.indent reader.source
  return (reader.allowKey true).push (.scalar content false) source

/-- A plain scalar, read by `plainScalar?`. If the white space behind it holds a line break, a key
may begin there. -/
def plainToken? (reader : Reader) : Option Reader := do
  let reader ← reader.saveKey?
  let (content, source, broken) ← plainScalar? reader.inFlow (reader.indent + 1) reader.source
  return (reader.allowKey broken).push (.scalar content true) source

/-- A character that cannot begin a plain scalar by itself; `beginsPlain` has the exceptions. -/
def isIndicator (c : Char) : Bool :=
  ['-', '?', ':', ',', '[', ']', '{', '}', '#', '&', '*', '!', '|', '>', '\'', '"', '%', '@', '\x60'].contains c

/-- A plain scalar may begin with `c` before the character `next`. Dashes, and in blocks question
marks and colons, may begin one when no blank follows. -/
def beginsPlain (flow : Bool) (c : Char) (next : Option Char) : Bool :=
  !(isBlank c || isBreak c || isIndicator c)
    || (c == '-' && !next.any isBlank)
    || (!flow && (c == '?' || c == ':') && !endsWord next)

/-! ## The tokens of a text -/

/-- A byte order mark at the beginning of a line is passed over; it takes a column
like any other character. -/
def Source.skipOrderMark (source : Source) : Source :=
  if source.column = 0 ∧ source.peek = some '\ufeff' then source.advance 1 else source

/-- The place of the next token: behind white space and comments. A key may begin on each new line
of a block, outside of `flow`. Tabs count as white space where no key may begin. The first number
bounds the `lines`. -/
def skipToToken (flow : Bool) : Nat → Bool → Source → Bool × Source
  | 0, keyAllowed, source => (keyAllowed, source)
  | lines + 1, keyAllowed, source =>
    let blank (c : Char) := c == ' ' || ((flow || !keyAllowed) && c == '\t')
    let after := ((Source.skipOrderMark source).dropWhile blank).dropComment
    match after.takeBreak? with
    | some (_, next) => skipToToken flow lines (keyAllowed || !flow) next
    | none => (keyAllowed, after)

/-- Reads the token that begins at the place of the reader, which is not the end of the text: `c`
and the character after it tell of which kind it is. -/
def readToken? (reader : Reader) (c : Char) : Option Reader :=
  let source := reader.source
  let next := source.peekAt 1
  let flow := reader.inFlow
  if source.column = 0 ∧ c = '%' then do
    let (token, after) ← directive? source
    reader.pushMark? token after
  else if source.beginsWithMark '-' then reader.pushMark? .documentStart (source.advance 3)
  else if source.beginsWithMark '.' then reader.pushMark? .documentEnd (source.advance 3)
  else if c = '[' then reader.openFlow? .flowSequenceStart
  else if c = '{' then reader.openFlow? .flowMappingStart
  else if c = ']' then reader.closeFlow? .flowSequenceEnd
  else if c = '}' then reader.closeFlow? .flowMappingEnd
  else if c = ',' then reader.flowEntry?
  else if c = '-' ∧ endsWord next then reader.blockEntry?
  else if c = '?' ∧ (flow ∨ endsWord next) then reader.explicitKey?
  else if c = ':' ∧ (flow ∨ endsWord next) then reader.valueMark?
  else if c = '*' then reader.nodeToken? fun source => do
    let (name, after) ← anchorName? source
    return (.alias name, after)
  else if c = '&' then reader.nodeToken? fun source => do
    let (name, after) ← anchorName? source
    return (.anchor name, after)
  else if c = '!' then reader.nodeToken? (tagToken? flow)
  else if c = '|' ∧ !flow then reader.blockScalarToken? true
  else if c = '>' ∧ !flow then reader.blockScalarToken? false
  else if c = '\'' ∨ c = '"' then reader.nodeToken? fun source => do
    let (content, after) ← quotedScalar? (c == '\'') source
    return (.scalar content false, after)
  else if beginsPlain flow c next then reader.plainToken?
  else none

/-- Goes on to the next token by `skipToToken`, ends the blocks that it lies left of, and reads it
by `readToken?`; the end of the text is a token too. -/
def nextToken? (reader : Reader) : Option Reader := do
  let (keyAllowed, source) :=
    skipToToken reader.inFlow (reader.source.rest.length + 1) reader.keyAllowed reader.source
  let reader ← { reader with source := source, keyAllowed := keyAllowed }.dropStaleKeys?
  let reader := reader.unindentTo source.column
  match source.peek with
  | none => reader.pushMark? .streamEnd source
  | some c => reader.readToken? c

/-- Reads tokens by `nextToken?` up to the end of the text; the number `bound` bounds how many. -/
def readAll? : Nat → Reader → Option Reader
  | 0, _ => none
  | bound + 1, reader => do
    let reader ← reader.nextToken?
    if reader.tokens.back? = some .streamEnd then return reader
    readAll? bound reader

end Reader

/-- The tokens of a YAML text, by `readAll?`; `none` if a character is not `isPrintable` or a token
cannot be read. -/
def tokens? (text : Text) : Option (List Token) :=
  if text.all isPrintable then do
    let reader ← Reader.readAll? (text.length + 2) { source := Source.ofText text }
    return reader.tokens.toList
  else none

end Stencil.Yaml
