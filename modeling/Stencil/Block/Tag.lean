import Stencil.Text.Split

/-!
# Block tags

A block is a stretch of template text between the tags `{block:Name}` and
`{/block:Name}`. A well-formed name is an ASCII letter followed by ASCII letters
and digits. What a template is asked for is a pattern: the blocks of one name,
which is then taken literally and need not be well-formed, or the blocks of any
well-formed name.

Theorem:
- `openTag?_eq_append`: what an open tag is read from is that tag and the rest.
-/

namespace Stencil.Block

open Text

/-- Which blocks are meant: `any` block, or those `named` so. -/
inductive Pattern where
  | any
  | named (name : Text)
  deriving DecidableEq

/-- The empty tag means `any` block, any other tag the blocks of that name. -/
def Pattern.ofTag : Text → Pattern
  | [] => .any
  | name => .named name

/-- What stands before the name in an open tag. -/
def openMark : Text := ['{', 'b', 'l', 'o', 'c', 'k', ':']

/-- What stands before the name in a close tag. -/
def closeMark : Text := ['{', '/', 'b', 'l', 'o', 'c', 'k', ':']

/-- The tag that opens a block: `name` between `openMark` and a closing brace. -/
def openTag (name : Text) : Text := openMark ++ name ++ ['}']

/-- The tag that closes a block: `name` between `closeMark` and a closing brace. -/
def closeTag (name : Text) : Text := closeMark ++ name ++ ['}']

/-- A well-formed name at the front of a text, as long as it can be: a letter for which
`Char.isAlpha` holds, and what follows it for which `Char.isAlphanum` does. -/
def readName? : Text → Option (Text × Text)
  | [] => none
  | c :: text =>
    if c.isAlpha then
      some (c :: text.takeWhile Char.isAlphanum, text.dropWhile Char.isAlphanum)
    else none

/-- A name that the pattern admits, at the front of a text: what `Block.readName?` reads for `any`,
and the name itself for `named`. -/
def Pattern.readName? : Pattern → Text → Option (Text × Text)
  | .any, text => Block.readName? text
  | .named name, text => (stripPrefix? name text).map fun rest => (name, rest)

/-- An open tag that the pattern admits at the front of a text: its name, and what follows the
tag. -/
def openTag? (pattern : Pattern) (text : Text) : Option (Text × Text) := do
  let afterMark ← stripPrefix? openMark text
  let (name, afterName) ← pattern.readName? afterMark
  let rest ← stripPrefix? ['}'] afterName
  return (name, rest)

/-- The text is `name ++ rest` for the name and the rest that `Pattern.readName?` reads from it. -/
theorem Pattern.readName?_eq_append {pattern : Pattern} {text name rest : Text}
    (h : pattern.readName? text = some (name, rest)) : text = name ++ rest := by
  cases pattern with
  | named wanted =>
    obtain ⟨after, hafter, hpair⟩ := Option.map_eq_some_iff.mp h
    obtain ⟨rfl, rfl⟩ := Prod.mk.inj hpair
    exact stripPrefix?_eq_some_iff.mp hafter
  | any =>
    cases text with
    | nil => simp [Pattern.readName?, Block.readName?] at h
    | cons c text =>
      simp only [Pattern.readName?, Block.readName?] at h
      split at h
      next =>
        obtain ⟨rfl, rfl⟩ := Prod.mk.inj (Option.some.inj h)
        simp
      next => cases h

/-- The text is `openTag name ++ rest` for the name and the rest that `openTag?` reads from it. -/
theorem openTag?_eq_append {pattern : Pattern} {text name rest : Text}
    (h : openTag? pattern text = some (name, rest)) : text = openTag name ++ rest := by
  simp only [openTag?, Option.bind_eq_bind, Option.bind_eq_some_iff, Option.pure_def,
    Option.some.injEq, Prod.mk.injEq] at h
  obtain ⟨afterMark, hmark, ⟨read, afterName⟩, hname, last, hlast, rfl, rfl⟩ := h
  have hafter : afterName = ['}'] ++ last := stripPrefix?_eq_some_iff.mp hlast
  rw [stripPrefix?_eq_some_iff.mp hmark, Pattern.readName?_eq_append hname, hafter]
  simp [openTag]

/-- The open tags that the pattern admits, from left to right and none of them overlapping, in the
text around them: the text is `split` where `openTag?` reads one. -/
def openTags (pattern : Pattern) (text : Text) : Split Text :=
  split (openTag? pattern) text

end Stencil.Block
