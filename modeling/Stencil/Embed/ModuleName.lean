import Stencil.Unicode.Alphanumeric
import Stencil.Unicode.Case
import Stencil.Unicode.Identifier

/-!
# Module names

The name under which a theme is embedded in a program: the name of the theme in
small letters, with underscores in front of its capitals and in the place of
whatever is no letter or digit, and with a word in front if it begins with a
digit. It has to be an identifier of the language, which not every name makes.
-/

namespace Stencil.Embed

/-- The last character of the text is `_`. -/
def endsWithUnderscore (text : Text) : Bool :=
  text.getLast? == some '_'

/-- The `name` so far with one more character `c` of the name it is made of. No underscore is put at
the beginning before a capital, nor where `endsWithUnderscore` holds. -/
def addToName (name : Text) (c : Char) : Text :=
  if Unicode.isUppercase c then
    (if name.isEmpty || endsWithUnderscore name then name else name ++ ['_']) ++ Unicode.lower c
  else if Unicode.isAlphanumeric c then name ++ [c]
  else if endsWithUnderscore name then name
  else name ++ ['_']

/-- A name in small letters and underscores, made by `addToName` character by character; one that
would begin with a digit has `theme_` in front. -/
def snakeCase (name : Text) : Text :=
  let words := name.foldl addToName []
  if words.head?.any Char.isDigit then "theme_".toList ++ words else words

/-- The words that are no identifiers although they are spelled like one. -/
def reservedWords : List Text :=
  ["_", "abstract", "as", "async", "await", "become", "box", "break", "const", "continue",
    "crate", "do", "dyn", "else", "enum", "extern", "false", "final", "fn", "for", "if", "impl",
    "in", "let", "loop", "macro", "match", "mod", "move", "mut", "override", "priv", "pub", "ref",
    "return", "Self", "self", "static", "struct", "super", "trait", "true", "try", "type",
    "typeof", "unsafe", "unsized", "use", "virtual", "where", "while", "yield"].map String.toList

/-- The text is an identifier: a letter or an underscore followed by letters, digits, marks and
underscores, and none of the `reservedWords`. -/
def isIdentifier : Text → Bool
  | [] => false
  | c :: rest =>
    (c == '_' || Unicode.isIdentifierStart c) && rest.all Unicode.isIdentifierContinue
      && !reservedWords.contains (c :: rest)

/-- The name of the module that a theme is embedded as: its `snakeCase`, if this `isIdentifier`. -/
def moduleName? (name : Text) : Option Text :=
  let converted := snakeCase name
  if isIdentifier converted then some converted else none

end Stencil.Embed
