import Stencil.Text.Split

/-!
# Variable tags in a text

The tags that look like variables, whether or not anything fills them in: a
brace, an ASCII letter, any number of ASCII letters, digits and hyphens, and the
closing brace.
-/

namespace Stencil.Variable

open Text

/-- The characters that may follow the first one in the name of a variable. -/
def isNameChar (c : Char) : Bool :=
  c.isAlphanum || c == '-'

/-- The name of the variable tag at the front of a text, a letter and what satisfies `isNameChar`,
and what follows the tag. -/
def openTag? : Text → Option (Text × Text)
  | '{' :: c :: text =>
    if c.isAlpha then
      (stripPrefix? ['}'] (text.dropWhile isNameChar)).map fun rest =>
        (c :: text.takeWhile isNameChar, rest)
    else none
  | _ => none

/-- The names of the variable tags in a text, found by `openTag?` from left to right. -/
def tagNames (text : Text) : List Text :=
  (split openTag? text).found

end Stencil.Variable
