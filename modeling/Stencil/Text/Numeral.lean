import Stencil.Text.Basic

/-!
# Numerals — numbers as digits, and digits as numbers

Decimal numerals for dates, counts and scalars, with zero padding and signs, and
single hexadecimal digits for the escapes of the text formats.
-/

namespace Stencil.Text

/-! ## Writing -/

/-- The decimal digits of a number, without leading zeros. -/
def decimal (n : Nat) : Text :=
  Nat.toDigits 10 n

/-- The `decimal` digits of an integer, after a minus sign if it is negative. -/
def signedDecimal (n : Int) : Text :=
  if n < 0 then '-' :: decimal n.natAbs else decimal n.natAbs

/-- Zeros in front until the text has at least `width` characters. -/
def zeroPadded (width : Nat) (text : Text) : Text :=
  List.replicate (width - text.length) '0' ++ text

/-- The hexadecimal digit of a number `n` below sixteen, with lower-case letters. -/
def hexDigit (n : Nat) : Char :=
  if n < 10 then Char.ofNat (48 + n) else Char.ofNat (87 + n)

/-- The hexadecimal digit of a number `n` below sixteen, with capital letters. -/
def capitalHexDigit (n : Nat) : Char :=
  if n < 10 then Char.ofNat (48 + n) else Char.ofNat (55 + n)

/-- The hexadecimal digits of a number, without leading zeros. -/
def hexadecimal (n : Nat) : Text :=
  Nat.toDigits 16 n

/-! ## Ranges -/

/-- An integer takes no more than a number of `bits`, be it with a sign or without one. -/
def fitsBits (bits : Nat) (n : Int) : Bool :=
  decide (-Int.ofNat (Nat.pow 2 (bits - 1)) ≤ n ∧ n < Int.ofNat (Nat.pow 2 bits))

/-! ## Reading -/

/-- The value of a digit in any base up to sixteen, in either case. -/
def digitValue? (c : Char) : Option Nat :=
  if '0' ≤ c ∧ c ≤ '9' then some (c.toNat - 48)
  else if 'a' ≤ c ∧ c ≤ 'f' then some (c.toNat - 87)
  else if 'A' ≤ c ∧ c ≤ 'F' then some (c.toNat - 55)
  else none

/-- A text of one or more digits below `base` as a number. -/
def readNatural? (base : Nat) (text : Text) : Option Nat :=
  if text.isEmpty then none
  else text.foldlM (fun value c => do
    let digit ← digitValue? c
    if digit < base then some (value * base + digit) else none) 0

/-- A text of digits, after a plus or minus sign or none, as an integer, by `readNatural?`. -/
def readInteger? (base : Nat) : Text → Option Int
  | '+' :: digits => (readNatural? base digits).map Int.ofNat
  | '-' :: digits => (readNatural? base digits).map fun n => -Int.ofNat n
  | digits => (readNatural? base digits).map Int.ofNat

end Stencil.Text
