import Stencil.Yaml.Source
import Stencil.Text.Numeral

/-!
# YAML block scalars

A scalar written on the lines below its header, all indented by the same amount.
A literal scalar keeps its line breaks. A folded one joins its lines with spaces,
except where a line is empty or begins with a blank. How the scalar ends is up to
the header: with all its breaks, one of them, or none.
-/

namespace Stencil.Yaml

/-- Which of the line breaks at the end of a block scalar belong to it. -/
inductive Chomping where
  | strip
  | clip
  | keep
  deriving DecidableEq

/-- What the header of a block scalar says: its `chomping`, and by its `increment`, if given, how
much deeper than its parent it is indented. -/
structure BlockHeader where
  chomping : Chomping
  increment : Option Nat

/-- The `Chomping` that a character asks for. -/
def chomping? : Option Char → Option Chomping
  | some '+' => some .keep
  | some '-' => some .strip
  | _ => none

/-- The header of a block scalar behind the character that begins it: `chomping?` and indentation in
either order, both of which may be missing. An indentation of zero gives `none`. -/
def blockHeader? (source : Source) : Option (BlockHeader × Source) :=
  let increment (source : Source) : Option (Option Nat × Source) :=
    match source.peek with
    | some c =>
      if c == '0' then none
      else if c.isDigit then some (Text.digitValue? c, source.advance 1)
      else some (none, source)
    | none => some (none, source)
  match chomping? source.peek with
  | some chomping => do
    let (given, next) ← increment (source.advance 1)
    return (⟨chomping, given⟩, next)
  | none => do
    let (given, next) ← increment source
    match given, chomping? next.peek with
    | some _, some chomping => return (⟨chomping, given⟩, next.advance 1)
    | _, _ => return (⟨.clip, given⟩, next)

/-- Skips the indentation of lines and gathers the breaks of those that hold
nothing else: the breaks, the deepest column reached, and the place of the first
other character. No more than `indent` spaces count as indentation, none being
known if it is zero; a tab among them is an error. The first number bounds the
lines. -/
def blockBreaks? (indent : Nat) : Nat → Source → Option (Text × Nat × Source)
  | 0, source => some ([], source.column, source)
  | lines + 1, source =>
    let spaces := (source.takeWhile (· == ' ')).1.length
    let skipped := if indent = 0 then spaces else min spaces (indent - source.column)
    let start := source.advance skipped
    if (indent = 0 ∨ start.column < indent) ∧ start.peek = some '\t' then none
    else match start.takeBreak? with
      | none => some ([], start.column, start)
      | some (c, next) => do
        let (breaks, deepest, last) ← blockBreaks? indent lines next
        return (c :: breaks, max start.column deepest, last)

/-- The text that stands for the line breaks `first` and `further` between two lines of a block
scalar: the breaks themselves if it is `literal` or one of the lines begins with a blank, and else
folded. -/
def joinLines (literal : Bool) (first further : Text) (afterBlank beforeBlank : Bool) : Text :=
  if !literal && first == ['\n'] && !afterBlank && !beforeBlank then
    (if further.isEmpty then [' '] else []) ++ further
  else first ++ further

/-- The lines of a block scalar from the beginning of one of them: their text
after the breaks before it, the break that ends the last line, the further breaks
behind it, and the place after these. `afterBlank` tells whether the line before
begins with a blank. The first number bounds the lines. -/
def blockLines? (literal : Bool) (indent : Nat) :
    Nat → Text → Text → Bool → Source → Option (Text × Text × Text × Source)
  | 0, first, further, _, source => some ([], first, further, source)
  | lines + 1, first, further, afterBlank, source =>
    if source.column ≠ indent ∨ source.rest.isEmpty then some ([], first, further, source)
    else do
      let beforeBlank := source.peek.any isBlank
      let (line, ending) := source.takeWhile fun c => !isBreak c
      let (lineBreak, next) := match ending.takeBreak? with
        | some (c, next) => ([c], next)
        | none => ([], ending)
      let (breaks, _, start) ← blockBreaks? indent (next.rest.length + 1) next
      let (more, lastBreak, lastBreaks, last) ←
        blockLines? literal indent lines lineBreak breaks beforeBlank start
      return (joinLines literal first further afterBlank beforeBlank ++ line ++ more,
        lastBreak, lastBreaks, last)

/-- A block scalar from the character that begins its header on, and the place behind it: its
`blockLines?` with the breaks that the header's `Chomping` keeps. The argument `parent` is the
indentation of the block that it stands in. -/
def blockScalar? (literal : Bool) (parent : Int) (source : Source) : Option (Text × Source) := do
  let (header, afterHeader) ← blockHeader? (source.advance 1)
  let start ← afterHeader.endLine?
  let given := match header.increment with
    | some increment => (max parent 0).toNat + increment
    | none => 0
  let (breaks, deepest, first) ← blockBreaks? given (start.rest.length + 1) start
  let indent := if given = 0 then max deepest (max (parent + 1).toNat 1) else given
  let (text, lastBreak, lastBreaks, last) ←
    blockLines? literal indent (first.rest.length + 1) [] breaks false first
  match header.chomping with
  | .strip => return (text, last)
  | .clip => return (text ++ lastBreak, last)
  | .keep => return (text ++ lastBreak ++ lastBreaks, last)

end Stencil.Yaml
