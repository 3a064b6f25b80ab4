import Stencil.Cursor.Basic

/-!
# Templates — one text rendered again and again

A template is a cursor that is used once for every copy of its text. When a copy
is done it is committed: it goes to the end of what the template has gathered,
and the cursor is back at the text it began with.

Theorem:
- `commit_edit`: after a copy the template is as fresh as it was before it.
-/

namespace Stencil

/-- A `cursor`, and the copies `gathered` so far. -/
structure Template where
  cursor : Cursor
  gathered : Text
  deriving DecidableEq, Inhabited

namespace Template

/-- A template on a text, with nothing gathered. -/
def ofText (text : Text) : Template := ⟨Cursor.ofText text, []⟩

/-- Gathers the `current` text and begins the next copy from the `initial` one. -/
def commit (template : Template) : Template :=
  ⟨template.cursor.setCurrent template.cursor.initial,
    template.gathered ++ template.cursor.current⟩

/-- The template with a `change` made to its `cursor`. -/
def edit (change : Cursor → Cursor) (template : Template) : Template :=
  { template with cursor := change template.cursor }

/-- A copy is `gathered` and leaves nothing else behind, if the `change` that makes it keeps what
the cursor began as, its `initial` text. -/
theorem commit_edit {change : Cursor → Cursor} {text : Text}
    (h : (change (Cursor.ofText text)).initial = text) (gathered : Text) :
    (edit change ⟨Cursor.ofText text, gathered⟩).commit
      = ⟨Cursor.ofText text, gathered ++ (change (Cursor.ofText text)).current⟩ := by
  unfold commit edit
  dsimp only
  rw [h]
  show (⟨⟨text, (change (Cursor.ofText text)).initial⟩, _⟩ : Template) = ⟨⟨text, text⟩, _⟩
  rw [h]

end Template

/-- Puts in the place of each block that `tag` names what `visit` gathers in a template on its
body. -/
def Cursor.gatherM {m : Type → Type} [Monad m] (tag : Text) (visit : Template → m Template) :
    Cursor → m Cursor :=
  replaceBodiesM tag fun body => do return (← visit (Template.ofText body)).gathered

end Stencil
