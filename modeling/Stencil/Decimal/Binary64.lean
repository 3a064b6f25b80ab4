/-!
# Binary64 numbers in exact arithmetic

A finite binary64 number is a whole number below 2^53 times a power of two. The
number nearest to a quotient is found by exact integer division, a tie going to
the even neighbour, so that every rounding in the library is a plain function of
natural numbers.
-/

namespace Stencil.Decimal

/-- A finite non-negative binary64 number, `mantissa * 2 ^ exponent`. The mantissa has fifty-three
bits unless the exponent is the least one, `-1074`. -/
structure Binary64 where
  mantissa : Nat
  exponent : Int
  deriving DecidableEq

/-- The number `n` times a power of a base, or `n` itself if the exponent is negative. -/
def scaleUp (n base : Nat) (exponent : Int) : Nat :=
  n * Nat.pow base exponent.toNat

/-- The whole number nearest to `num / den`, the even one of two that are equally near. -/
def roundedQuotient (num den : Nat) : Nat :=
  let quotient := num / den
  let rest := num % den
  if 2 * rest < den then quotient
  else if den < 2 * rest then quotient + 1
  else if quotient % 2 = 0 then quotient
  else quotient + 1

namespace Binary64

/-- The power of two in units of which `num / den` is rounded: the one that leaves fifty-three bits,
but none below `-1074`. -/
def unitExponent (num den : Nat) : Int :=
  let guess := (num.log2 : Int) - den.log2 - 52
  let fits := scaleUp (scaleUp den 2 guess) 2 52 ≤ scaleUp num 2 (-guess)
  max (-1074) (if fits then guess else guess - 1)

/-- The binary64 number nearest to `num / den`, a tie going to the one with an even mantissa; `none`
if that lies beyond the finite numbers. -/
def nearest? (num den : Nat) : Option Binary64 :=
  let exponent := unitExponent num den
  let mantissa :=
    roundedQuotient (scaleUp num 2 (-exponent)) (scaleUp den 2 exponent)
  let number : Binary64 :=
    if mantissa = Nat.pow 2 53 then ⟨Nat.pow 2 52, exponent + 1⟩ else ⟨mantissa, exponent⟩
  if num = 0 then some ⟨0, -1074⟩
  else if 971 < number.exponent then none
  else some number

/-- The binary64 number nearest to `digits * 10 ^ exponent`; `none` if that lies beyond the finite
numbers. The cases of `leading` keep the powers of ten small that `nearest?` is asked about. -/
def ofDecimal? (digits : Nat) (exponent : Int) : Option Binary64 :=
  let leading := exponent + (Nat.toDigits 10 digits).length
  if digits = 0 ∨ leading < -330 then some ⟨0, -1074⟩
  else if 310 < leading then none
  else nearest? (scaleUp digits 10 exponent) (scaleUp 1 10 (-exponent))

/-- The whole part of `mantissa * 2 ^ exponent`. -/
def floor (number : Binary64) : Nat :=
  scaleUp number.mantissa 2 number.exponent / scaleUp 1 2 (-number.exponent)

/-- The whole number nearest to `mantissa * 2 ^ exponent`, the greater one of two that are equally
near. -/
def round (number : Binary64) : Nat :=
  let scale := scaleUp 1 2 (-number.exponent)
  (2 * scaleUp number.mantissa 2 number.exponent + scale) / (2 * scale)

/-- The binary64 number `nearest?` to `n` divided by another number. -/
def quotient? (n : Nat) (divisor : Binary64) : Option Binary64 :=
  nearest? (scaleUp n 2 (-divisor.exponent)) (scaleUp divisor.mantissa 2 divisor.exponent)

end Binary64

end Stencil.Decimal
