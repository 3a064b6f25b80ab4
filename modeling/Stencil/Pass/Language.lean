import Stencil.Pass.Basic

/-!
# The language pass

Fills in the strings of a language: each tag `{lang:Key}` becomes the string under
that key, as it is. The strings are those of the locale that was loaded last.
-/

namespace Stencil

/-- The language of a theme, by its locale. -/
structure Language where
  locale : Text := "en".toList
  deriving DecidableEq

namespace Language

/-- The name of the variable of a string: `lang:` in front of its key. -/
def variableName (key : Text) : Text := "lang:".toList ++ key

/-- Fills in the strings that the context has under `languageKey`, each under its `variableName`;
entries that are no texts are passed over. -/
def fill (context : Context) (cursor : Cursor) : Cursor :=
  match (context.get? Context.languageKey).bind Value.map? with
  | none => cursor
  | some strings => strings.foldl (fun filled entry =>
      match entry.2.text? with
      | none => filled
      | some content => filled.fill (variableName entry.1) content false) cursor

/-- The name of the pass. -/
def passName : Text := "language".toList

/-- The pass for a language: `loadLocale` before rendering, then `fill`. -/
def pass {m : Type → Type} [Monad m] (tree : FileTree) (language : Language) : Pass m where
  name := passName
  preload := Loading.loadLocale tree language.locale
  render context := modify (fill context)

end Language

end Stencil
