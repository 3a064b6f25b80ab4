import Stencil.Yaml.Source
import Stencil.Yaml.Token
import Stencil.Text.Numeral

/-!
# YAML anchors, tags and directives

What may stand before a node to name it or to say its type, and the directives
before a document, which say the version of YAML and abbreviate tags.
-/

namespace Stencil.Yaml

/-! ## Anchors and aliases -/

/-- The name of an anchor or alias behind the character that begins it, of `isWordChar` characters.
Something that can end it has to follow. -/
def anchorName? (source : Source) : Option (Text × Source) :=
  let (name, after) := (source.advance 1).takeWhile isWordChar
  let ends := endsWord after.peek ||
    after.peek.any fun c => ['?', ':', ',', ']', '}', '%', '@', '\x60'].contains c
  if name.isEmpty || !ends then none else some (name, after)

/-! ## Tags -/

/-- The characters of a tag; the marks of flow sequences count too if `withFlow` says so. -/
def isTagChar (withFlow : Bool) (c : Char) : Bool :=
  isWordChar c
    || [';', '/', '?', ':', '@', '&', '=', '+', '$', '.', '%', '!', '~', '*', '\'', '(', ')'].contains c
    || (withFlow && [',', '[', ']'].contains c)

/-- How many bytes a character takes whose first `byte` in UTF-8 is given. -/
def utf8Width? (byte : Nat) : Option Nat :=
  if byte < 0x80 then some 1
  else if byte < 0xC0 then none
  else if byte < 0xE0 then some 2
  else if byte < 0xF0 then some 3
  else if byte < 0xF8 then some 4
  else none

/-- A byte written as a percent sign and two hexadecimal digits, and what follows it. -/
def escapedByte? : Text → Option (Nat × Text)
  | '%' :: high :: low :: rest => do
    return ((← Text.digitValue? high) * 16 + (← Text.digitValue? low), rest)
  | _ => none

/-- The `code` of a character after the bits that the given number of further escaped `bytes`
add. -/
def continuation? : Nat → Nat → Text → Option (Nat × Text)
  | 0, code, text => some (code, text)
  | bytes + 1, code, text => do
    let (byte, rest) ← escapedByte? text
    if 0x80 ≤ byte ∧ byte < 0xC0 then continuation? bytes (code * 64 + byte % 64) rest else none

/-- A character written as `utf8Width?` many of its escaped bytes, and what follows it. -/
def escapedTagChar? (text : Text) : Option (Char × Text) := do
  let (byte, rest) ← escapedByte? text
  let width ← utf8Width? byte
  let start := if width = 1 then byte else byte % Nat.pow 2 (7 - width)
  let (code, rest) ← continuation? (width - 1) start rest
  return (Char.ofNat code, rest)

/-- The text of a tag with what `escapedTagChar?` reads resolved; the first number bounds the
`chars`. -/
def unescapeTag? : Nat → Text → Option Text
  | 0, _ => some []
  | _, [] => some []
  | chars + 1, c :: rest =>
    if c = '%' then do
      let (escaped, rest) ← escapedTagChar? (c :: rest)
      return escaped :: (← unescapeTag? chars rest)
    else do return c :: (← unescapeTag? chars rest)

/-- The characters of a tag, those that satisfy `isTagChar`, through `unescapeTag?`, and the place
behind them. -/
def tagText? (withFlow : Bool) (source : Source) : Option (Text × Source) := do
  let (written, after) := source.takeWhile (isTagChar withFlow)
  return (← unescapeTag? written.length written, after)

/-- The handle with which a tag begins: an exclamation mark, and if a word and
another mark follow, these too. -/
def tagHandle? (source : Source) : Option (Text × Source) :=
  if source.peek = some '!' then
    let (word, after) := (source.advance 1).takeWhile isWordChar
    if after.peek = some '!' then some ('!' :: word ++ ['!'], after.advance 1)
    else some ('!' :: word, after)
  else none

/-- A tag: verbatim between angle brackets, with a `tagHandle?` of its own, or with the plain
handle. A lone exclamation mark is a tag without a handle. -/
def tagToken? (flow : Bool) (source : Source) : Option (Token × Source) := do
  let (token, after) ←
    if source.peekAt 1 = some '<' then do
      let (content, after) ← tagText? true (source.advance 2)
      if content.isEmpty || after.peek != some '>' then none
      else some (Token.tag [] content, after.advance 1)
    else do
      let (handle, after) ← tagHandle? source
      if 1 < handle.length ∧ handle.getLast? = some '!' then
        let (suffix, after) ← tagText? false after
        if suffix.isEmpty then none else some (Token.tag handle suffix, after)
      else
        let (more, after) ← tagText? false after
        let suffix := handle.drop 1 ++ more
        if suffix.isEmpty then some (Token.tag [] ['!'], after)
        else some (Token.tag ['!'] suffix, after)
  if endsWord after.peek || (flow && after.peek == some ',') then some (token, after) else none

/-! ## Directives -/

/-- A version number of at most nine digits. -/
def versionNumber? (source : Source) : Option (Nat × Source) := do
  let (digits, after) := source.takeWhile Char.isDigit
  if 9 < digits.length then none
  return (← Text.readNatural? 10 digits, after)

/-- The version that a directive gives, two times `versionNumber?` with a point between. -/
def versionDirective? (source : Source) : Option (Token × Source) := do
  let (major, after) ← versionNumber? (source.dropWhile isBlank)
  if after.peek != some '.' then none
  let (minor, after) ← versionNumber? (after.advance 1)
  return (.versionDirective major minor, after)

/-- The `tagHandle?` and its expansion that a directive gives. -/
def tagDirective? (source : Source) : Option (Token × Source) := do
  let (handle, after) ← tagHandle? (source.dropWhile isBlank)
  if handle != ['!'] && handle.getLast? != some '!' then none
  if !(after.peek.any isBlank) then none
  let (expansion, after) ← tagText? true (after.dropWhile isBlank)
  if expansion.isEmpty || !endsWord after.peek then none
  return (.tagDirective handle expansion, after)

/-- A directive from its percent sign on, by `versionDirective?` or `tagDirective?`, and the place
behind its line. -/
def directive? (source : Source) : Option (Token × Source) := do
  let (name, after) := (source.advance 1).takeWhile isWordChar
  if !endsWord after.peek then none
  let (token, after) ←
    if name = ['Y', 'A', 'M', 'L'] then versionDirective? after
    else if name = ['T', 'A', 'G'] then tagDirective? after
    else none
  return (token, ← after.endLine?)

end Stencil.Yaml
