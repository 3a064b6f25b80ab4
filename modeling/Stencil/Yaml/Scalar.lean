import Stencil.Decimal.Shortest
import Stencil.Text.Numeral

/-!
# What plain YAML scalars mean

A scalar without quotes may be null, a truth value, an integer or a float, and is
a string if it is none of them. Integers are decimal, or hexadecimal, octal or
binary after `0x`, `0o` and `0b`; a decimal one with zeros in front is a string.
Integers that fit 64 bits are numbers, those that fit only 128 bits are errors,
and still longer ones are floats. A float that is not finite when rounded is a
string, unless it is written as `.inf` or `.nan`.

Numbers are written back as themes print them: floats with the fewest digits that
read back, positionally below 10^16 and from 10^-5 on, and with a point.
-/

namespace Stencil.Yaml

/-- A number of a YAML document: an integer, or a float as `Decimal.Binary64` has it. -/
inductive Number where
  | integer (value : Int)
  | finite (negative : Bool) (magnitude : Decimal.Binary64)
  | infinite (negative : Bool)
  | notANumber
  deriving DecidableEq

/-- What a scalar means. -/
inductive Scalar where
  | null
  | bool (value : Bool)
  | number (value : Number)
  | text (content : Text)
  deriving DecidableEq

namespace Scalar

/-! ## Words -/

/-- The scalar spells null. -/
def isNull (word : Text) : Bool :=
  ["null".toList, "Null".toList, "NULL".toList, ['~']].contains word

/-- The truth value that a scalar spells. -/
def bool? (word : Text) : Option Bool :=
  if ["true".toList, "True".toList, "TRUE".toList].contains word then some true
  else if ["false".toList, "False".toList, "FALSE".toList].contains word then some false
  else none

/-! ## Integers -/

/-- The word is a `0` in front of more digits and nothing else, with or without a sign. -/
def hasLeadingZero (word : Text) : Bool :=
  let digits := match word with
    | '+' :: rest => rest
    | '-' :: rest => rest
    | _ => word
  match digits with
  | '0' :: c :: rest => (c :: rest).all Char.isDigit
  | _ => false

/-- The digits of a numeral behind its base mark, and that base, `10` without a mark. -/
def baseDigits : Text → Nat × Text
  | '0' :: 'x' :: rest => (16, rest)
  | '0' :: 'o' :: rest => (8, rest)
  | '0' :: 'b' :: rest => (2, rest)
  | digits => (10, digits)

/-- The integer that a scalar spells in one of the `baseDigits`, whatever its size; `none` if it
`hasLeadingZero`. -/
def integer? (word : Text) : Option Int :=
  let (negative, unsigned) := match word with
    | '-' :: rest => (true, rest)
    | '+' :: rest => (false, rest)
    | _ => (false, word)
  let (base, digits) := baseDigits unsigned
  if hasLeadingZero word then none
  else (Text.readNatural? base digits).map fun n => if negative then -Int.ofNat n else Int.ofNat n

/-- How much room an integer takes, as `size` tells. -/
inductive Size where
  | word
  | doubleWord
  | beyond
  deriving DecidableEq

/-- An integer fits 64 bits, as a natural number or with a sign, or 128 bits, or neither, by
`Text.fitsBits`. -/
def size (n : Int) : Size :=
  if Text.fitsBits 64 n then .word
  else if Text.fitsBits 128 n then .doubleWord
  else .beyond

/-! ## Floats -/

/-- The exponent of a float: `0` for no text, and else `e` or `E` with a signed numeral behind
it. -/
def exponent? : Text → Option Int
  | [] => some 0
  | c :: rest => if c = 'e' ∨ c = 'E' then Text.readInteger? 10 rest else none

/-- The number that digits with a point among them and an `exponent?` behind them spell: all digits
as one number, and the exponent of its last digit. -/
def decimal? (word : Text) : Option (Nat × Int) := do
  let whole := word.takeWhile Char.isDigit
  let (fraction, afterFraction) := match word.dropWhile Char.isDigit with
    | '.' :: rest => (rest.takeWhile Char.isDigit, rest.dropWhile Char.isDigit)
    | rest => ([], rest)
  let digits ← Text.readNatural? 10 (whole ++ fraction)
  let exponent ← exponent? afterFraction
  return (digits, exponent - fraction.length)

/-- The float that a scalar spells: a word for infinity or `notANumber`, or the `decimal?` rounded
by `Decimal.Binary64.ofDecimal?`. -/
def float? (word : Text) : Option Number :=
  let isInfinity (rest : Text) :=
    [".inf".toList, ".Inf".toList, ".INF".toList].contains rest
  let finite (negative : Bool) (rest : Text) := do
    let (digits, exponent) ← decimal? rest
    return Number.finite negative (← Decimal.Binary64.ofDecimal? digits exponent)
  if [".nan".toList, ".NaN".toList, ".NAN".toList].contains word then some .notANumber
  else match word with
    | '+' :: rest => if isInfinity rest then some (.infinite false) else finite false rest
    | '-' :: rest => if isInfinity rest then some (.infinite true) else finite true rest
    | _ => if isInfinity word then some (.infinite false) else finite false word

/-! ## Scalars -/

/-- What a plain scalar means, tried as null, `bool?`, `integer?`, `float?` and text in this order;
`none` for an integer of the size `doubleWord`. -/
def ofPlain? (word : Text) : Option Scalar :=
  if word.isEmpty || isNull word then some .null
  else match bool? word with
    | some value => some (.bool value)
    | none =>
      match (integer? word).map fun n => (n, size n) with
      | some (n, .word) => some (.number (.integer n))
      | some (_, .doubleWord) => none
      | _ =>
        if hasLeadingZero word then some (.text word)
        else match float? word with
          | some value => some (.number value)
          | none => some (.text word)

/-- What a scalar means whose tag asks for null: `none` unless it `isNull`. -/
def ofNull? (word : Text) : Option Scalar :=
  if isNull word then some .null else none

/-- What a scalar means whose tag asks for a truth value, by `bool?`. -/
def ofBool? (word : Text) : Option Scalar :=
  (bool? word).map .bool

/-- What a scalar means whose tag asks for an integer, by `integer?`; it has to be of the size
`word`. -/
def ofInteger? (word : Text) : Option Scalar :=
  match (integer? word).map fun n => (n, size n) with
  | some (n, .word) => some (.number (.integer n))
  | _ => none

/-- What a scalar means whose tag asks for a float, by `float?`. -/
def ofFloat? (word : Text) : Option Scalar :=
  (float? word).map .number

end Scalar

/-! ## Numbers as text -/

namespace Number

/-- Two numbers are the same: `0` and `-0` are, and so is `notANumber` with itself. -/
def same : Number → Number → Bool
  | .finite m a, .finite n b => a == b && (m == n || a.mantissa == 0)
  | a, b => a == b

/-- The digits of a decimal, positionally if its first digit stands at a power of ten from `-5` to
`15`, and else with one digit before the point and an exponent. -/
def finiteText (d : Decimal.Digits) : Text :=
  let digits := Text.decimal d.digits
  let count := digits.length
  let point := d.exponent + count
  if 0 ≤ d.exponent ∧ point ≤ 16 then
    digits ++ List.replicate d.exponent.toNat '0' ++ ['.', '0']
  else if 0 < point ∧ point ≤ 16 then
    digits.take point.toNat ++ ['.'] ++ digits.drop point.toNat
  else if -5 < point ∧ point ≤ 0 then
    ['0', '.'] ++ List.replicate (-point).toNat '0' ++ digits
  else
    let mantissa := if count = 1 then digits else digits.take 1 ++ ['.'] ++ digits.drop 1
    mantissa ++ ['e'] ++ Text.signedDecimal (point - 1)

/-- A number as it is printed, a finite float by `finiteText` of its shortest digits. -/
def text : Number → Text
  | .integer n => Text.signedDecimal n
  | .finite negative magnitude =>
    (if negative then ['-'] else []) ++ finiteText magnitude.shortest
  | .infinite negative => if negative then "-.inf".toList else ".inf".toList
  | .notANumber => ".nan".toList

end Number

end Stencil.Yaml
