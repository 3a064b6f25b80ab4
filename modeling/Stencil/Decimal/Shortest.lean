import Stencil.Decimal.Binary64

/-!
# The shortest decimal that reads back

The decimals that round to a binary64 number fill an interval around it, from
halfway to the number below up to halfway to the number above, the ends included
exactly when the mantissa is even. The shortest decimal of the number is the one
with the fewest digits in that interval and, of several with so many digits, the
one nearest to the number, an even last digit settling a tie.

For each count of digits only the two decimals next to the number can be that
one, so the search looks at these two for one digit, two digits, and so on;
seventeen digits are always enough.
-/

namespace Stencil.Decimal

/-- A decimal, `digits * 10 ^ exponent`. -/
structure Digits where
  digits : Nat
  exponent : Int
  deriving DecidableEq

namespace Binary64

/-- The decimal `d` lies in the interval of what rounds to `x`. Its ends belong to it where the
`mantissa` is even; downwards it reaches half as far where `x` is the least of its `exponent`. -/
def covers (x : Binary64) (d : Digits) : Bool :=
  let narrow := x.mantissa = Nat.pow 2 52 ∧ -1074 < x.exponent
  let below := if narrow then 4 * x.mantissa - 1 else 4 * x.mantissa - 2
  let above := 4 * x.mantissa + 2
  let unit := x.exponent - 2
  let decimal := scaleUp (scaleUp d.digits 10 d.exponent) 2 (-unit)
  let scale := scaleUp (scaleUp 1 2 unit) 10 (-d.exponent)
  if x.mantissa % 2 = 0 then decide (below * scale ≤ decimal ∧ decimal ≤ above * scale)
  else decide (below * scale < decimal ∧ decimal < above * scale)

/-- The exponent `k` for which `num / den`, if positive, lies from `10 ^ (k - 1)` up to but not
including `10 ^ k`. -/
def decimalScale (num den : Nat) : Int :=
  let guess := ((Nat.toDigits 10 num).length : Int) - (Nat.toDigits 10 den).length
  if scaleUp num 10 (-guess) < scaleUp den 10 guess then guess else guess + 1

/-- Of the two decimals with `count` digits next to `num / den`, the one that `covers` allows, and
the nearer one if it allows both. -/
def candidate? (x : Binary64) (num den : Nat) (scale : Int) (count : Nat) : Option Digits :=
  let exponent := scale - count
  let scaledNum := scaleUp num 10 (-exponent)
  let scaledDen := scaleUp den 10 exponent
  let below : Digits := ⟨scaledNum / scaledDen, exponent⟩
  let above : Digits := ⟨scaledNum / scaledDen + 1, exponent⟩
  if x.covers below then
    if x.covers above then some ⟨roundedQuotient scaledNum scaledDen, exponent⟩ else some below
  else if x.covers above then some above
  else none

end Binary64

/-- The decimal without zeros at the end of its `digits`; each of them raises the `exponent` by
one. -/
def Digits.trimmed (d : Digits) : Digits :=
  if _h : d.digits ≠ 0 ∧ d.digits % 10 = 0 then
    Digits.trimmed ⟨d.digits / 10, d.exponent + 1⟩
  else d
termination_by d.digits
decreasing_by omega

/-- The shortest decimal that rounds to the number: the first `candidate?` with one to seventeen
digits. -/
def Binary64.shortest (x : Binary64) : Digits :=
  let num := scaleUp x.mantissa 2 x.exponent
  let den := scaleUp 1 2 (-x.exponent)
  let scale := decimalScale num den
  if x.mantissa = 0 then ⟨0, 0⟩
  else
    match (List.range' 1 17).findSome? (x.candidate? num den scale) with
    | some found => found.trimmed
    | none => ⟨num, x.exponent⟩

end Stencil.Decimal
