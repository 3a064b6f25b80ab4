import Stencil.Calendar
import Stencil.Decimal.Binary64
import Stencil.Text.Numeral

/-!
# TOML scalars

Strings in the four notations of TOML, and the words that stand for truth values,
numbers, dates and times. A float and a date are kept as they are written; what
matters about them is that they are valid.
-/

namespace Stencil.Toml

open Text

/-- A value that holds no others. -/
inductive Scalar where
  | string (content : Text)
  | boolean (value : Bool)
  | integer (value : Int)
  | float (written : Text)
  | dateTime (written : Text)
  deriving DecidableEq

/-! ## White space -/

/-- A space or a tab, the white space that stays on a line; `newline?` reads the other. -/
def isBlank (c : Char) : Bool :=
  c == ' ' || c == '\t'

/-- A control character, which neither strings nor comments may hold; `'\t'` is none. -/
def isControl (c : Char) : Bool :=
  (c.toNat < 0x20 && c != '\t') || c.toNat == 0x7F

/-- The text behind a line break, `"\n"` or `"\r\n"`. -/
def newline? : Text → Option Text
  | '\n' :: rest => some rest
  | '\r' :: '\n' :: rest => some rest
  | _ => none

/-- The text behind blanks and what `newline?` reads; `bound` bounds the characters. -/
def skipSpace : Nat → Text → Text
  | 0, text => text
  | _, [] => []
  | bound + 1, c :: rest =>
    if isBlank c then skipSpace bound rest
    else match newline? (c :: rest) with
      | some after => skipSpace bound after
      | none => c :: rest

/-! ## Strings -/

/-- The character that a letter after a backslash stands for, where `escapeWidth?` knows none. -/
def escapedChar? : Char → Option Char
  | 'b' => some '\x08'
  | 't' => some '\t'
  | 'n' => some '\n'
  | 'f' => some '\x0c'
  | 'r' => some '\r'
  | 'e' => some '\x1b'
  | '"' => some '"'
  | '\\' => some '\\'
  | _ => none

/-- How many hexadecimal digits follow a letter after a backslash. -/
def escapeWidth? : Char → Option Nat
  | 'x' => some 2
  | 'u' => some 4
  | 'U' => some 8
  | _ => none

/-- The character that the text after a backslash stands for, by `escapeWidth?` or `escapedChar?`,
and what follows it. -/
def escape? : Text → Option (Char × Text)
  | [] => none
  | letter :: rest =>
    match escapeWidth? letter with
    | none => (escapedChar? letter).map fun c => (c, rest)
    | some width => do
      let digits := rest.take width
      if digits.length < width then none
      let code ← readNatural? 16 digits
      if code < 0xD800 ∨ (0xDFFF < code ∧ code ≤ 0x10FFFF) then
        some (Char.ofNat code, rest.drop width)
      else none

/-- A string of one line from behind its opening `quote` on, with what `escape?` reads if it is in
double quotes, and what follows the closing quote. The argument `bound` bounds its characters. -/
def lineString? (quote : Char) : Nat → Text → Option (Text × Text)
  | 0, _ => none
  | _, [] => none
  | bound + 1, c :: rest =>
    if c = quote then some ([], rest)
    else if quote = '"' ∧ c = '\\' then do
      let (escaped, after) ← escape? rest
      let (more, last) ← lineString? quote bound after
      return (escaped :: more, last)
    else if isControl c then none
    else (lineString? quote bound rest).map fun (more, last) => (c :: more, last)

/-- A string of several lines from behind its opening quotes on, and what follows the closing ones.
One or two times `quote` may stand before the three that close it. A backslash at the end of a line
takes away what `skipSpace` passes over. The argument `bound` bounds the characters. -/
def longString? (quote : Char) : Nat → Text → Option (Text × Text)
  | 0, _ => none
  | _, [] => none
  | bound + 1, c :: rest =>
    if c = quote then
      let quotes := ((c :: rest).takeWhile (· == quote)).length
      if quotes < 3 then
        (longString? quote bound rest).map fun (more, last) => (c :: more, last)
      else if 5 < quotes then none
      else some (List.replicate (quotes - 3) quote, (c :: rest).drop quotes)
    else if quote = '"' ∧ c = '\\' then
      match newline? (rest.dropWhile isBlank) with
      | some after => longString? quote bound (skipSpace after.length after)
      | none => do
        let (escaped, after) ← escape? rest
        let (more, last) ← longString? quote bound after
        return (escaped :: more, last)
    else match newline? (c :: rest) with
      | some after => (longString? quote bound after).map fun (more, last) => ('\n' :: more, last)
      | none =>
        if isControl c then none
        else (longString? quote bound rest).map fun (more, last) => (c :: more, last)

/-- A string from its first `quote` on, and what follows it: `longString?` behind three quotes,
whose first line break does not count, and else `lineString?`. -/
def string? (quote : Char) (text : Text) : Option (Text × Text) :=
  match stripPrefix? [quote, quote, quote] text with
  | some rest => longString? quote text.length ((newline? rest).getD rest)
  | none => lineString? quote text.length (text.drop 1)

/-! ## Numbers -/

/-- Digits of a `base` with single underscores between some of them, without these. -/
def groupedDigits? (base : Nat) (text : Text) : Option Text :=
  let isDigit (c : Char) := (digitValue? c).any (· < base)
  let rec go : Bool → Text → Option Text
    | afterDigit, [] => if afterDigit then some [] else none
    | afterDigit, c :: rest =>
      if c = '_' then (if afterDigit then go false rest else none)
      else if isDigit c then (go true rest).map (c :: ·)
      else none
  go false text

/-- The digits of a decimal whole number: `groupedDigits?` with no zero in front of others. -/
def wholeDigits? (text : Text) : Option Text := do
  let digits ← groupedDigits? 10 text
  if 1 < digits.length ∧ digits.head? = some '0' then none else some digits

/-- A sign and what follows it: whether there is one, and whether it is a minus. -/
def sign : Text → Bool × Bool × Text
  | '+' :: rest => (true, false, rest)
  | '-' :: rest => (true, true, rest)
  | text => (false, false, text)

/-- An integer that `fitsBits 128`: decimal with or without a `sign`, or unsigned in another
base. -/
def integer? (word : Text) : Option Int := do
  let (signed, negative, rest) := sign word
  let magnitude ←
    match signed, rest with
    | false, '0' :: 'x' :: digits => do readNatural? 16 (← groupedDigits? 16 digits)
    | false, '0' :: 'o' :: digits => do readNatural? 8 (← groupedDigits? 8 digits)
    | false, '0' :: 'b' :: digits => do readNatural? 2 (← groupedDigits? 2 digits)
    | _, digits => do readNatural? 10 (← wholeDigits? digits)
  let value := if negative then -Int.ofNat magnitude else Int.ofNat magnitude
  if fitsBits 128 value then some value else none

/-- The exponent that stands behind `e` or `E`; the empty text stands for `0`. -/
def exponent? : Text → Option Int
  | [] => some 0
  | c :: rest => do
    if c ≠ 'e' ∧ c ≠ 'E' then none
    let (_, negative, digits) := sign rest
    let magnitude ← readNatural? 10 (← groupedDigits? 10 digits)
    return if negative then -Int.ofNat magnitude else Int.ofNat magnitude

/-- The word is a float: `inf` or `nan` behind a `sign`, or decimal digits with a fraction, an
`exponent?` or both, whose value `Decimal.Binary64.ofDecimal?` finds finite. -/
def isFloat (word : Text) : Bool :=
  let (_, _, rest) := sign word
  let whole := rest.takeWhile fun (c : Char) => c.isDigit || c == '_'
  let finite := do
    let wholeDigits ← wholeDigits? whole
    let (fraction, after) ← match rest.drop whole.length with
      | '.' :: after =>
        let written := after.takeWhile fun (c : Char) => c.isDigit || c == '_'
        (groupedDigits? 10 written).map fun digits => (digits, after.drop written.length)
      | after => if after.isEmpty then none else some ([], after)
    let exponent ← exponent? after
    let digits ← readNatural? 10 (wholeDigits ++ fraction)
    Decimal.Binary64.ofDecimal? digits (exponent - fraction.length)
  rest == ['i', 'n', 'f'] || rest == ['n', 'a', 'n'] || finite.isSome

/-! ## Dates and times -/

/-- A number of exactly `count` digits at the front of a text that is at most `limit`, and what
follows it. -/
def fixedNumber? (count limit : Nat) (text : Text) : Option (Nat × Text) := do
  let digits := text.take count
  if digits.length < count then none
  let value ← readNatural? 10 digits
  if limit < value then none else some (value, text.drop count)

/-- What follows a date at the front of a text; `none` where its month has no such day, with the
29th of February by `Date.isLeap`. -/
def date? (text : Text) : Option Text := do
  let (year, rest) ← fixedNumber? 4 9999 text
  let (month, rest) ← fixedNumber? 2 12 (← stripPrefix? ['-'] rest)
  let (day, rest) ← fixedNumber? 2 31 (← stripPrefix? ['-'] rest)
  let days :=
    if month = 2 then (if Date.isLeap year then 29 else 28)
    else if [4, 6, 9, 11].contains month then 30 else 31
  if month = 0 ∨ day = 0 ∨ days < day then none else some rest

/-- What follows a time of day at the front of a text, of which the seconds, up to `60`, and a
fraction of them may be left out. -/
def time? (text : Text) : Option Text := do
  let (_, rest) ← fixedNumber? 2 23 text
  let (_, rest) ← fixedNumber? 2 59 (← stripPrefix? [':'] rest)
  match rest with
  | ':' :: rest =>
    let (_, rest) ← fixedNumber? 2 60 rest
    match rest with
    | '.' :: fraction =>
      if fraction.head?.any Char.isDigit then some (fraction.dropWhile Char.isDigit) else none
    | _ => some rest
  | _ => some rest

/-- What follows a `time?` is nothing or an offset from UTC. -/
def isOffset : Text → Bool
  | [] => true
  | ['Z'] => true
  | ['z'] => true
  | c :: rest => (c == '+' || c == '-') && (do
      let (_, rest) ← fixedNumber? 2 23 rest
      let (_, rest) ← fixedNumber? 2 59 (← stripPrefix? [':'] rest)
      if rest.isEmpty then some () else none).isSome

/-- The word is a `date?`, a `time?`, or both with or without what `isOffset` accepts. -/
def isDateTime (word : Text) : Bool :=
  match date? word with
  | some [] => true
  | some (c :: rest) =>
    (c == 'T' || c == 't' || c == ' ') && (time? rest).any isOffset
  | none => (time? word).any List.isEmpty

/-! ## Words -/

/-- What a word without quotes stands for: a truth value, an `integer?`, and else a word that
`isFloat` or `isDateTime` accepts. -/
def word? (word : Text) : Option Scalar :=
  if word = ['t', 'r', 'u', 'e'] then some (.boolean true)
  else if word = ['f', 'a', 'l', 's', 'e'] then some (.boolean false)
  else match integer? word with
    | some value => some (.integer value)
    | none =>
      if isFloat word then some (.float word)
      else if isDateTime word then some (.dateTime word)
      else none

end Stencil.Toml
