import Stencil.Variable.Form
import Stencil.Value.Basic

/-!
# Filling in variables

A variable is filled in by replacing its tags, first the bare ones and then, if
the variable may be transformed, those of each prefixed form in turn. The
variables of a map are filled in one after the other in the order of the map.
A map inside a map adds its own variables under their own names; lists are no
variables and are passed over.
-/

namespace Stencil.Variable

/-- The text with the tags of the variable `name` filled in by `fillForm`: the bare ones, and the
`Form.prefixed` ones after them if `transform` says so. -/
def fill (name value : Text) (transform : Bool) (text : Text) : Text :=
  let bare := fillForm .bare name value text
  if transform then
    Form.prefixed.foldl (fun filled form => fillForm form name value filled) bare
  else bare

mutual

/-- The text with the variables that a value under `key` stands for filled in: a text by `fill`, a
map by `fillFields`, a list not at all. -/
def fillValue (transform : Bool) (key : Text) : Value → Text → Text
  | .text content, text => fill key content transform text
  | .map entries, text => fillFields transform entries text
  | .list _, text => text

/-- The text with the variables of a map filled in by `fillValue`, in their order. -/
def fillFields (transform : Bool) : List (Text × Value) → Text → Text
  | [], text => text
  | (key, value) :: rest, text =>
    fillFields transform rest (fillValue transform key value text)

end

end Stencil.Variable
