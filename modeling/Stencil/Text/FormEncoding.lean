import Stencil.Text.Numeral

/-!
# Form encoding — a text as the value of a query

Only ASCII letters, digits, `-`, `_` and `.` stand for themselves. A space
becomes a plus sign, and every other character becomes one `%XX` for each byte
of its UTF-8 form.
-/

namespace Stencil.FormEncoding

/-- The characters that stand for themselves: ASCII letters and digits, `-`, `_` and `.`. -/
def isPlain (c : Char) : Bool :=
  c.isAlphanum || c == '-' || c == '_' || c == '.'

/-- One byte as a percent sign and two hexadecimal digits. -/
def escapeByte (byte : UInt8) : Text :=
  ['%', Text.capitalHexDigit (byte.toNat / 16), Text.capitalHexDigit (byte.toNat % 16)]

/-- The written form of one character: `+` for a space, itself if it `isPlain`, and else its bytes,
each by `escapeByte`. -/
def encodeChar (c : Char) : Text :=
  if c = ' ' then ['+']
  else if isPlain c then [c]
  else (String.utf8EncodeChar c).flatMap escapeByte

/-- A text in form encoding, character by character by `encodeChar`. -/
def encode (text : Text) : Text :=
  text.flatMap encodeChar

end Stencil.FormEncoding
