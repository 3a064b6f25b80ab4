import Stencil.Text.Numeral

/-!
# JSON string literals

A text as a JSON string, quotes included. Quotes, backslashes and the control
characters below the space are escaped, the usual five of them by a letter and
the others by four hexadecimal digits; every other character stands for itself.
-/

namespace Stencil.JsonString

/-- The letter that stands for a character after a backslash, if it has one. -/
def letter? : Char → Option Char
  | '"' => some '"'
  | '\\' => some '\\'
  | '\x08' => some 'b'
  | '\x0c' => some 'f'
  | '\n' => some 'n'
  | '\r' => some 'r'
  | '\t' => some 't'
  | _ => none

/-- The written form of one character: with its `letter?` behind a backslash, with four digits if it
is a control character without one, and else as itself. -/
def escapeChar (c : Char) : Text :=
  match letter? c with
  | some letter => ['\\', letter]
  | none =>
    if c.toNat < 0x20 then
      ['\\', 'u', '0', '0', Text.hexDigit (c.toNat / 16), Text.hexDigit (c.toNat % 16)]
    else [c]

/-- A text as a JSON string literal: each character by `escapeChar`, between quotes. -/
def quote (text : Text) : Text :=
  '"' :: text.flatMap escapeChar ++ ['"']

end Stencil.JsonString
