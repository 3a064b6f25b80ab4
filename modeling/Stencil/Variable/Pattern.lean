import Stencil.Variable.Form

/-!
# Looking for tags by patterns

The tags of a form with a prefix are looked for by a pattern, which is a text in
the language of regular expressions: a mark by which case is not regarded, and
then the braces, the prefix and the name, where each character that means
something in that language has a backslash before it. Of the language no more is
needed here than how it reads rows of such characters. What takes the place of a
tag is put there as it is. A pattern that cannot be read leaves the text alone.

How large a pattern may be is for the engine to say and no part of this.
-/

namespace Stencil

namespace Pattern

/-- The characters that mean something in a pattern where they stand by themselves. -/
def special : List Char :=
  ['\\', '.', '+', '*', '?', '(', ')', '|', '[', ']', '{', '}', '^', '$', '#', '&', '-', '~']

/-- A text as a pattern for itself: a backslash before each of the `special` characters. -/
def escape (text : Text) : Text :=
  text.flatMap fun c => if special.contains c then ['\\', c] else [c]

/-- What a pattern begins with if it does not regard case: `(?i)`. -/
def caseMark : Text := ['(', '?', 'i', ')']

/-- The characters that a pattern stands for one after the other, if it is a row of characters, the
`special` ones with a backslash before them. -/
def characters? : Text → Option Text
  | [] => some []
  | '\\' :: c :: rest => if special.contains c then (characters? rest).map (c :: ·) else none
  | c :: rest => if special.contains c then none else (characters? rest).map (c :: ·)

end Pattern

namespace Variable

open Text

/-- The pattern for the tags of the prefix `mark` and a `name`, each through `Pattern.escape`. -/
def tagPattern (mark name : Text) : Text :=
  Pattern.caseMark ++ ['\\', '{'] ++ Pattern.escape mark ++ Pattern.escape name ++ ['\\', '}']

/-- The text with `replacement` in the place of each tag that matches `tagPattern mark name`; the
text itself where the pattern is no row of `Pattern.characters?`. -/
def replacePrefixed (mark name replacement text : Text) : Text :=
  match (stripPrefix? Pattern.caseMark (tagPattern mark name)).bind Pattern.characters? with
  | none => text
  | some characters =>
    replaceEach (fun rest => (stripFolded? characters rest).map fun after => ((), after))
      (fun _ => replacement) text

end Variable

end Stencil
