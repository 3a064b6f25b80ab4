import Stencil.Pass.Basic

/-!
# Themes

A theme is a template text with the data and the passes that render it. Passes
run in the order in which they were registered, each on the text that the one
before has left. At the end every block that no pass has claimed is taken out, so
that no complete block reaches the output. The result is the text that the next
rendering begins with. A rendering that fails changes nothing.
-/

namespace Stencil

/-- A text to render, the `context` of the data to render it from, and the `passes` that do it. -/
structure Theme (m : Type → Type) where
  cursor : Cursor
  context : Context := {}
  passes : List (Pass m) := []

namespace Theme

variable {m : Type → Type}

/-- A theme of a text, with no data and no passes. -/
def ofText (text : Text) : Theme m := { cursor := Cursor.ofText text }

/-- Reads the text of a theme from a file: `themeNotFound` where the path leads nowhere, and
`themeUnreadable` where it leads to no text. -/
def ofFile (tree : FileTree) (path : Path) : Except Error (Theme m) :=
  if tree.holds path then
    match tree.readText? path with
    | some text => .ok (ofText text)
    | none => .error (.themeUnreadable path)
  else .error (.themeNotFound path)

/-- Registers a `pass` behind the others if it can load its data by `preload`. -/
def register (pass : Pass m) (theme : Theme m) : Except Error Unit × Theme m :=
  match (pass.preload.run).run theme.context with
  | (.ok (), context) => (.ok (), { theme with context := context, passes := theme.passes ++ [pass] })
  | (.error error, context) => (.error error, { theme with context := context })

/-- Registers passes in order by `register`, up to the first that fails. -/
def registerAll : List (Pass m) → Theme m → Except Error Unit × Theme m
  | [], theme => (.ok (), theme)
  | pass :: rest, theme =>
    match theme.register pass with
    | (.ok (), registered) => registerAll rest registered
    | (.error error, unregistered) => (.error error, unregistered)

/-- Runs passes in order on a cursor, each by its `render`, up to the first that fails. -/
def runPasses [Monad m] (context : Context) : List (Pass m) → Rendering m Unit
  | [] => pure ()
  | pass :: rest => do
    pass.render context
    runPasses context rest

/-- Runs every pass by `runPasses`, takes out the blocks that are left by `removeAll`, and tells the
text that comes of it. The passes work on a copy of the cursor, which is kept only if none of them
fails. -/
def render [Monad m] (theme : Theme m) : m (Except Error Text × Theme m) := do
  match ← (runPasses theme.context theme.passes).run.run theme.cursor with
  | (.error error, _) => return (.error error, theme)
  | (.ok (), rendered) =>
    let cleaned := rendered.removeAll
    return (.ok cleaned.current, { theme with cursor := cleaned })

end Theme

end Stencil
