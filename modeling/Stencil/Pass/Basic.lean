import Stencil.Context
import Stencil.Cursor.Template

/-!
# Passes

A pass decides what is rendered: which blocks stay, which variables are filled in
and which regions are repeated. It may need data of its own, which it loads once,
when it is registered with a theme; what it has loaded when that fails stays. Then
it works on a cursor each time the theme is rendered. What it has done to the
cursor when that fails is there to be seen, and is for the theme to drop.
-/

namespace Stencil

/-- Work on a `Context` that may fail part of the way; what is done to the context by then stays. -/
abbrev Loading := ExceptT Error (StateM Context)

/-- Work on a `Cursor` that may fail part of the way, in a monad `m` that carries whatever else it
needs. -/
abbrev Rendering (m : Type → Type) := ExceptT Error (StateT Cursor m)

/-- A step of rendering: `preload` works on the context before any text is rendered, and `render` on
the text. -/
structure Pass (m : Type → Type) where
  name : Text
  preload : Loading Unit := pure ()
  render : Context → Rendering m Unit

/-- Loads a data file into the context, by `Context.load`. -/
def Loading.load (tree : FileTree) (name : Text) : Loading Unit := do
  set (← liftExcept ((← get).load tree name))
where
  /-- An outcome as work that changes nothing. -/
  liftExcept {α : Type} : Except Error α → Loading α
    | .ok value => pure value
    | .error error => throw error

/-- Loads the strings of a locale into the context, by `Context.loadLocale`. -/
def Loading.loadLocale (tree : FileTree) (locale : Text) : Loading Unit := do
  set (← Loading.load.liftExcept ((← get).loadLocale tree locale))

end Stencil
