import Stencil.Theme.Basic
import Stencil.Text.Quoted

/-!
# Looking at themes

A theme on one line, with everything it holds: its texts, its data, its search
paths and merged files, and the names of its passes.
-/

namespace Stencil.Inspect

/-- Texts with a comma and a space in between. -/
def commaSeparated : List Text → Text
  | [] => []
  | [item] => item
  | item :: rest => item ++ [',', ' '] ++ commaSeparated rest

/-- A list of written `items` between brackets. -/
def bracketed (items : List Text) : Text :=
  ['['] ++ commaSeparated items ++ [']']

/-- A list of written `items` between braces. -/
def braced (items : List Text) : Text :=
  ['{'] ++ commaSeparated items ++ ['}']

mutual

/-- A value with the name of its kind, a text by `Quoted.quote`. -/
def value : Value → Text
  | .text content => "Text(".toList ++ Quoted.quote content ++ [')']
  | .map entries => "Map(".toList ++ braced (fields entries) ++ [')']
  | .list items => "List(".toList ++ bracketed (values items) ++ [')']

/-- The items of a list. -/
def values : List Value → List Text
  | [] => []
  | item :: rest => value item :: values rest

/-- The entries of a map, each a key and a value. -/
def fields : List (Text × Value) → List Text
  | [] => []
  | (key, content) :: rest =>
    (Quoted.quote key ++ [':', ' '] ++ value content) :: fields rest

end

/-- A record with the name of its `kind` and named `parts`. -/
def record (kind : Text) (parts : List (Text × Text)) : Text :=
  kind ++ [' ', '{', ' '] ++
    commaSeparated (parts.map fun (name, written) => name ++ [':', ' '] ++ written) ++ [' ', '}']

/-- A path as text that `Quoted.quote` writes. -/
def path (path : Path) : Text := Quoted.quote path.written

/-- A cursor as a `record` of its two texts. -/
def cursor (cursor : Cursor) : Text :=
  record "BlockCursor".toList
    [("current".toList, Quoted.quote cursor.current),
      ("original".toList, Quoted.quote cursor.initial)]

/-- A context as a `record` of its values, search paths and merged files. -/
def context (context : Context) : Text :=
  record "Data".toList
    [("values".toList, braced (fields context.values)),
      ("paths".toList, bracketed (context.searchPaths.map path)),
      ("loaded".toList, braced (context.loaded.map path))]

/-- A theme as a `record` of its cursor, its context and the names of its passes. -/
def theme {m : Type → Type} (theme : Theme m) : Text :=
  record "Theme".toList
    [("cursor".toList, cursor theme.cursor),
      ("data".toList, context theme.context),
      ("parsers".toList, bracketed (theme.passes.map fun pass => Quoted.quote pass.name))]

end Stencil.Inspect
