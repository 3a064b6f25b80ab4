import Stencil.Text.Numeral
import Stencil.Unicode.Visible

/-!
# Quoted text

A text between double quotes, for messages and for looking at values. Quotes,
backslashes, line breaks, tabs and the null character are written with a letter
after a backslash, and characters that cannot be seen standing alone with their
code point in hexadecimal digits between braces.
-/

namespace Stencil.Quoted

/-- The letter that stands for a character after a backslash, if it has one. -/
def letter? : Char → Option Char
  | '"' => some '"'
  | '\\' => some '\\'
  | '\n' => some 'n'
  | '\r' => some 'r'
  | '\t' => some 't'
  | '\x00' => some '0'
  | _ => none

/-- The written form of one character: with its `letter?` behind a backslash, itself if it
`isVisible`, and else by its number in hexadecimal digits. -/
def escapeChar (c : Char) : Text :=
  match letter? c with
  | some letter => ['\\', letter]
  | none =>
    if Unicode.isVisible c then [c]
    else ['\\', 'u', '{'] ++ Text.hexadecimal c.toNat ++ ['}']

/-- A text between double quotes, each character by `escapeChar`. -/
def quote (text : Text) : Text :=
  '"' :: text.flatMap escapeChar ++ ['"']

end Stencil.Quoted
