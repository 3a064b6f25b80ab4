import Stencil.Text.Basic

/-!
# YAML source — the text that is left to read, and where it begins

Reading goes on from a place in the text. What the rules of YAML ask about that
place are its column, which tells how deep a line is indented, its line and its
index, which bound how far a key may stand before its colon.
-/

namespace Stencil.Yaml

/-! ## Characters -/

/-- The characters that a YAML text may hold. -/
def isPrintable (c : Char) : Bool :=
  let n := c.toNat
  n == 0x09 || n == 0x0A || n == 0x0D || (0x20 ≤ n && n ≤ 0x7E) || n == 0x85
    || (0xA0 ≤ n && n ≤ 0xD7FF) || (0xE000 ≤ n && n ≤ 0xFFFD) || 0x10000 ≤ n

/-- A space or a tab, the white space that stays on a line; the other satisfies `isBreak`. -/
def isBlank (c : Char) : Bool :=
  c == ' ' || c == '\t'

/-- A character that ends a line. -/
def isBreak (c : Char) : Bool :=
  c == '\n' || c == '\r' || c == '\u0085' || c == '\u2028' || c == '\u2029'

/-- A character that may stand in a name: a letter, a digit, `-` or `_` of ASCII. -/
def isWordChar (c : Char) : Bool :=
  c.isAlphanum || c == '-' || c == '_'

/-- A character that `isBlank` or `isBreak`, or the end of the text. -/
def endsWord : Option Char → Bool
  | none => true
  | some c => isBlank c || isBreak c

/-! ## Places in a text -/

/-- What is left of a text (`rest`), and the place where it begins. -/
structure Source where
  rest : Text
  index : Nat
  line : Nat
  column : Nat

namespace Source

/-- The beginning of a `text`: nothing is read yet. -/
def ofText (text : Text) : Source := ⟨text, 0, 0, 0⟩

/-- The next character. -/
def peek (source : Source) : Option Char := source.rest.head?

/-- The character `n` places after the next one. -/
def peekAt (source : Source) (n : Nat) : Option Char := source.rest[n]?

/-- The place behind `n` more characters of the same line. -/
def advance (n : Nat) (source : Source) : Source :=
  ⟨source.rest.drop n, source.index + n, source.line, source.column + n⟩

/-- The longest run of characters that satisfy `p`, and the place behind it. -/
def takeWhile (p : Char → Bool) (source : Source) : Text × Source :=
  let run := source.rest.takeWhile p
  (run, source.advance run.length)

/-- The place behind the longest run of characters that satisfy `p`. -/
def dropWhile (p : Char → Bool) (source : Source) : Source :=
  (source.takeWhile p).2

/-- The line break at the front as a single character, and the beginning of the next line. The
breaks of ASCII and U+0085 all become `'\n'`. -/
def takeBreak? (source : Source) : Option (Char × Source) :=
  match source.rest with
  | '\r' :: '\n' :: rest => some ('\n', ⟨rest, source.index + 2, source.line + 1, 0⟩)
  | c :: rest =>
    if isBreak c then
      let read := if c == '\u2028' || c == '\u2029' then c else '\n'
      some (read, ⟨rest, source.index + 1, source.line + 1, 0⟩)
    else none
  | [] => none

/-- The place behind a comment, if `#` begins one here: the end of the line. -/
def dropComment (source : Source) : Source :=
  if source.peek = some '#' then source.dropWhile fun c => !isBreak c else source

/-- The place behind blanks, a comment and the break that ends the line; `none` if something else
stands there. -/
def endLine? (source : Source) : Option Source :=
  let after := (source.dropWhile isBlank).dropComment
  if after.rest.isEmpty then some after else after.takeBreak?.map (·.2)

/-- The line begins with three times `c`, followed by what `endsWord`. -/
def beginsWithMark (c : Char) (source : Source) : Bool :=
  source.column == 0 && source.rest.take 3 == [c, c, c] && endsWord (source.peekAt 3)

/-- A mark that begins or ends a document stands here: `beginsWithMark` for `-` or `.`. -/
def atDocumentMark (source : Source) : Bool :=
  source.beginsWithMark '-' || source.beginsWithMark '.'

end Source

/-! ## White space inside scalars -/

/-- White space inside a scalar as it is read: the `text` that stands for it, and whether it is
`broken` by a line break. -/
structure Gap where
  text : Text
  broken : Bool

/-- The text that stands for line breaks: a single line feed becomes a space, and before `further`
breaks it vanishes. -/
def foldBreaks (first : Char) (further : Text) : Text :=
  if first = '\n' then
    if further.isEmpty then [' '] else further
  else first :: further

/-- The breaks of the lines that hold nothing but blanks, up to the first one that holds more, and
the place of its first character; `none` if a tab stands to the left of `indent`. The first number
bounds the `lines`. -/
def furtherBreaks? (indent : Int) : Nat → Source → Option (Text × Source)
  | 0, source => some ([], source)
  | lines + 1, source =>
    let (blanks, after) := source.takeWhile isBlank
    let tabs := blanks.zipIdx.any fun (c, i) => c == '\t' && ((source.column + i : Nat) : Int) < indent
    if tabs then none
    else match after.takeBreak? with
      | none => some ([], after)
      | some (c, next) => do
        let (breaks, last) ← furtherBreaks? indent lines next
        return (c :: breaks, last)

/-- The white space at a place in a scalar as a `Gap`, its breaks by `foldBreaks`, and the place
behind it. -/
def gap? (indent : Int) (source : Source) : Option (Gap × Source) :=
  let (blanks, after) := source.takeWhile isBlank
  match after.takeBreak? with
  | none => some (⟨blanks, false⟩, after)
  | some (first, next) => do
    let (further, last) ← furtherBreaks? indent (next.rest.length + 1) next
    return (⟨foldBreaks first further, true⟩, last)

end Stencil.Yaml
