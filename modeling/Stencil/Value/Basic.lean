import Stencil.Keyed

/-!
# Values

What a template is filled from: texts, and maps and lists of further values.
-/

namespace Stencil

/-- A value that a template can be filled from: a text, named values (`map`) or a row of values
(`list`). -/
inductive Value where
  | text (content : Text)
  | map (entries : List (Text × Value))
  | list (items : List Value)
  deriving Inhabited

/-- Named values in order, as a `map` has them. -/
abbrev Fields := Keyed Value

namespace Value

/-- The content of a `text`, `none` for any other value. -/
def text? : Value → Option Text
  | .text content => some content
  | _ => none

/-- The entries of a `map`, `none` for any other value. -/
def map? : Value → Option Fields
  | .map entries => some entries
  | _ => none

/-- The items of a `list`, `none` for any other value. -/
def list? : Value → Option (List Value)
  | .list items => some items
  | _ => none

/-- There is nothing in the text, map or list. -/
def isEmpty : Value → Bool
  | .text content => content.isEmpty
  | .map entries => entries.isEmpty
  | .list items => items.isEmpty

end Value

end Stencil
