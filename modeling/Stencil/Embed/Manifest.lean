import Stencil.Block.Tag
import Stencil.Variable.Tag

/-!
# Manifests — the names that a template uses

The names of the blocks, variables and language strings in a template text, each
once and in the order of their bytes.
-/

namespace Stencil.Embed

open Text

/-- The names that a template uses: those of its blocks, of its variables, and the keys of its
strings. -/
structure Manifest where
  blockNames : List Text
  variableNames : List Text
  stringKeys : List Text
  deriving DecidableEq

/-- What stands before the key in the tag of a language string. -/
def stringMark : Text := ['{', 'l', 'a', 'n', 'g', ':']

/-- The key of the language string whose tag, `stringMark` in front of it, stands at the front of a
text, and what follows the tag. A key is any text without braces that is not empty. -/
def openString? (text : Text) : Option (Text × Text) := do
  let afterMark ← stripPrefix? stringMark text
  let key := afterMark.takeWhile fun c => c != '{' && c != '}'
  let rest ← stripPrefix? ['}'] (afterMark.drop key.length)
  if key.isEmpty then none else some (key, rest)

/-- The `texts` in ascending order, each once. -/
def distinct (texts : List Text) : List Text :=
  (texts.mergeSort bytesLE).eraseReps

/-- The names that a template text uses, each list made `distinct`: those of `Block.openTags`, those
of `Variable.tagNames`, and the keys that `openString?` finds. -/
def Manifest.ofText (text : Text) : Manifest where
  blockNames := distinct (Block.openTags .any text).found
  variableNames := distinct (Variable.tagNames text)
  stringKeys := distinct (split openString? text).found

end Stencil.Embed
