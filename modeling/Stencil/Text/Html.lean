import Stencil.Text.Basic

/-!
# HTML text — the four characters that markup gives a meaning

A text printed into HTML, be it between tags or inside a double-quoted
attribute, must not hold `&`, `"`, `<` or `>` as they are: each is written as
its entity, and every other character stays.
-/

namespace Stencil.Html

/-- The written form of one character. -/
def escapeChar : Char → Text
  | '&' => ['&', 'a', 'm', 'p', ';']
  | '"' => ['&', 'q', 'u', 'o', 't', ';']
  | '<' => ['&', 'l', 't', ';']
  | '>' => ['&', 'g', 't', ';']
  | c => [c]

/-- A text made safe for HTML, character by character by `escapeChar`. -/
def escape (text : Text) : Text :=
  text.flatMap escapeChar

end Stencil.Html
