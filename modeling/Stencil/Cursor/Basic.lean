import Stencil.Block.Choice
import Stencil.Variable.Fill

/-!
# Cursors — a text under work and the text it began as

A cursor holds a stretch of template text twice: as it stands after the work
done so far, and as it was at first. All work is done on the first of the two.
-/

namespace Stencil

open Block (Pattern)

/-- The `current` text under work, and the `initial` one that it began as. -/
structure Cursor where
  current : Text
  initial : Text
  deriving DecidableEq, Inhabited

namespace Cursor

/-- A cursor on a text that nothing has been done to. -/
def ofText (text : Text) : Cursor := ⟨text, text⟩

/-- Nothing has been done to the text, or all of it has been undone: `current` is `initial`. -/
def isFresh (cursor : Cursor) : Bool := cursor.current == cursor.initial

/-- The cursor with `text` as its `current` one. -/
def setCurrent (text : Text) (cursor : Cursor) : Cursor :=
  { cursor with current := text }

/-- The cursor with a `change` made to its `current` text. -/
def edit (change : Text → Text) (cursor : Cursor) : Cursor :=
  cursor.setCurrent (change cursor.current)

/-- Fills in one variable, by `Variable.fill`. -/
def fill (name value : Text) (transform : Bool) : Cursor → Cursor :=
  edit (Variable.fill name value transform)

/-- Fills in the variables of a map, by `Variable.fillFields`. -/
def fillFields (fields : Fields) (transform : Bool) : Cursor → Cursor :=
  edit (Variable.fillFields transform fields)

/-- Takes the tags off the blocks that `tag` names, by `Block.unwrap`; their bodies stay. -/
def unwrap (tag : Text) : Cursor → Cursor :=
  edit (Block.unwrap (Pattern.ofTag tag))

/-- Takes out the blocks that `tag` names, by `Block.remove`. -/
def remove (tag : Text) : Cursor → Cursor :=
  edit (Block.remove (Pattern.ofTag tag))

/-- Takes out every block, by `Block.removeAll`. -/
def removeAll : Cursor → Cursor :=
  edit Block.removeAll

/-- Keeps the branch of a condition that holds, by `Block.choose`. -/
def choose (label : Text) (holds : Bool) : Cursor → Cursor :=
  edit (Block.choose label holds)

/-- Replaces every occurrence of `old` by `new`; nothing happens when `old` is empty. -/
def replace (old new : Text) : Cursor → Cursor :=
  edit (Text.replaceAll old new)

/-- Puts in the place of each block that `tag` names one copy of its `region.body` for each of the
`rows`, with the variables of the row filled in and nothing in between. -/
def repeatRows (tag : Text) (rows : List Fields) : Cursor → Cursor :=
  edit (Block.replace (Pattern.ofTag tag) fun region =>
    rows.flatMap fun row => Variable.fillFields true row region.body)

/-- Puts in the place of each block that `tag` names what `render` makes of its body, from left to
right, in the monad `m`. -/
def replaceBodiesM {m : Type → Type} [Monad m] (tag : Text) (render : Text → m Text)
    (cursor : Cursor) : m Cursor := do
  let regions := Block.regions (Pattern.ofTag tag) cursor.current
  return cursor.setCurrent (← regions.assembleM fun region => render region.body)

/-- Puts in the place of each block that `tag` names what `visit` leaves of a cursor on its body. -/
def visitM {m : Type → Type} [Monad m] (tag : Text) (visit : Cursor → m Cursor) :
    Cursor → m Cursor :=
  replaceBodiesM tag fun body => do return (← visit (ofText body)).current

end Cursor

end Stencil
