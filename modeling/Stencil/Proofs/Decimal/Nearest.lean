import Mathlib.Algebra.Order.Field.Power
import Mathlib.Algebra.Order.Field.Rat
import Mathlib.Tactic.FieldSimp
import Mathlib.Tactic.Linarith
import Mathlib.Tactic.NormNum
import Mathlib.Tactic.Ring
import Stencil.Decimal.Binary64

/-!
# Rounding passes over no binary64 number

A quotient is rounded to the nearest whole number of units, the unit being the power of two
that leaves fifty-three bits to it, or the least one of the format (`unitExponent_bounds`).
Proofs about binary64 arithmetic need one thing of this: what a quotient is rounded to lies on
the same side of every number of the format as the quotient does (`sides_of_nearest?`).

A number whose own unit is not smaller is a whole number of units, and rounding to a whole
number passes over none. A number whose own unit is smaller has too few bits to reach the
quotient, and what the quotient is rounded to is not below `2 ^ 52` units either.

So a rounded quotient is bounded by looking for a number of the format beside it, most often a
fraction with a small power of two as its denominator (`sides_of_fraction`), and no proof has
to look into the unit again. Numbers are compared as rational numbers (`value`).

Theorems:
- `isFinite_of_nearest?`, `exists_nearest?`: rounding gives a number of the format.
- `sides_of_nearest?`: it keeps to its side of every number of the format.
- `le_floor_iff`, `le_round_iff`: the whole part and the nearest whole number.
-/

namespace Stencil.Decimal

/-! ## Scaled quotients -/

theorem cast_scaleUp (n base : Nat) (exponent : Int) :
    (scaleUp n base exponent : ℚ) = n * (base : ℚ) ^ exponent.toNat := by
  unfold scaleUp
  push_cast [Nat.pow_eq]
  rfl

theorem scaleUp_pos {n : Nat} (hn : 0 < n) (exponent : Int) : 0 < scaleUp n 2 exponent :=
  Nat.mul_pos hn (Nat.pow_pos (by decide))

/-- A power of two with any exponent as a quotient of natural numbers. -/
theorem two_zpow (exponent : Int) :
    (2 : ℚ) ^ exponent = 2 ^ exponent.toNat / 2 ^ (-exponent).toNat := by
  obtain ⟨n, rfl | rfl⟩ := exponent.eq_nat_or_neg
  · simp
  · simp

/-- With `scaleUp` on numerator and denominator a quotient is divided by `2 ^ exponent`. -/
theorem scaleUp_div_scaleUp (num den : Nat) (exponent : Int) :
    (scaleUp num 2 (-exponent) : ℚ) / scaleUp den 2 exponent = num / den / 2 ^ exponent := by
  rw [cast_scaleUp, cast_scaleUp, two_zpow]
  push_cast
  rw [div_div_eq_mul_div, div_mul_eq_mul_div, div_div]

variable {num den : Nat}

theorem mul_scaleUp_le_iff (hden : 0 < den) (n : Nat) (exponent : Int) :
    n * scaleUp den 2 exponent ≤ scaleUp num 2 (-exponent) ↔
      (n : ℚ) * 2 ^ exponent ≤ num / den := by
  have hscaled : (0 : ℚ) < scaleUp den 2 exponent := by exact_mod_cast scaleUp_pos hden exponent
  have hpower : (0 : ℚ) < 2 ^ exponent := zpow_pos (by norm_num) _
  rw [← le_div_iff₀ hpower, ← scaleUp_div_scaleUp, le_div_iff₀ hscaled]
  exact_mod_cast Iff.rfl

theorem scaleUp_le_mul_iff (hden : 0 < den) (n : Nat) (exponent : Int) :
    scaleUp num 2 (-exponent) ≤ n * scaleUp den 2 exponent ↔
      (num : ℚ) / den ≤ n * 2 ^ exponent := by
  have hscaled : (0 : ℚ) < scaleUp den 2 exponent := by exact_mod_cast scaleUp_pos hden exponent
  have hpower : (0 : ℚ) < 2 ^ exponent := zpow_pos (by norm_num) _
  rw [← div_le_iff₀ hpower, ← scaleUp_div_scaleUp, div_le_iff₀ hscaled]
  exact_mod_cast Iff.rfl

/-! ## Rounding to a whole number -/

/-- A whole number `n` not above `num / den` is not above `roundedQuotient`. -/
theorem le_roundedQuotient (hden : 0 < den) {n : Nat} (h : n * den ≤ num) :
    n ≤ roundedQuotient num den := by
  have hfloor : n ≤ num / den := (Nat.le_div_iff_mul_le hden).mpr h
  unfold roundedQuotient
  dsimp only
  split_ifs <;> omega

/-- A whole number `n` not below `num / den` is not below `roundedQuotient`. -/
theorem roundedQuotient_le (hden : 0 < den) {n : Nat} (h : num ≤ n * den) :
    roundedQuotient num den ≤ n := by
  have hfloor : num / den ≤ n := Nat.div_le_of_le_mul (by rwa [Nat.mul_comm])
  rcases Nat.lt_or_eq_of_le hfloor with hlt | heq
  · unfold roundedQuotient
    dsimp only
    split_ifs <;> omega
  · -- nothing is left over, so the quotient itself is the answer
    have hrest : num % den = 0 := by
      have := Nat.div_add_mod num den
      rw [heq, Nat.mul_comm] at this
      omega
    unfold roundedQuotient
    rw [hrest, heq]
    simp [hden]

namespace Binary64

/-! ## The number that stands for a quotient -/

/-- The rational number `mantissa * 2 ^ exponent` that a binary64 number is. -/
def value (x : Binary64) : ℚ := x.mantissa * 2 ^ x.exponent

/-- The numbers that the format has: a `mantissa` of fifty-three bits and an `exponent` in range. -/
structure IsFinite (x : Binary64) : Prop where
  mantissa_lt : x.mantissa < 2 ^ 53
  exponent_ge : -1074 ≤ x.exponent
  exponent_le : x.exponent ≤ 971

/-- The lengths `log2` of two numbers give their quotient up to a factor of two either way. -/
theorem quotient_bounds (hnum : 0 < num) (hden : 0 < den) :
    (2 : ℚ) ^ ((num.log2 : Int) - den.log2 - 1) ≤ num / den ∧
      (num : ℚ) / den < 2 ^ ((num.log2 : Int) - den.log2 + 1) := by
  have hpos : (0 : ℚ) < den := by exact_mod_cast hden
  have hnum_ge : (2 : ℚ) ^ (num.log2 : Int) ≤ num := by
    exact_mod_cast Nat.log2_self_le hnum.ne'
  have hnum_lt : (num : ℚ) < 2 ^ ((num.log2 : Int) + 1) := by
    exact_mod_cast Nat.lt_log2_self
  have hden_ge : (2 : ℚ) ^ (den.log2 : Int) ≤ den := by
    exact_mod_cast Nat.log2_self_le hden.ne'
  have hden_lt : (den : ℚ) < 2 ^ ((den.log2 : Int) + 1) := by
    exact_mod_cast Nat.lt_log2_self
  constructor
  · rw [sub_sub, zpow_sub₀ (by norm_num)]
    exact div_le_div₀ (by positivity) hnum_ge hpos hden_lt.le
  · rw [sub_add_eq_add_sub, zpow_sub₀ (by norm_num)]
    exact div_lt_div₀ hnum_lt hden_ge (by positivity) (by positivity)

/-- The unit of rounding, `2 ^ unitExponent`, is the least one, or it leaves fifty-three bits to
`num / den`. -/
theorem unitExponent_bounds (hnum : 0 < num) (hden : 0 < den) :
    (unitExponent num den = -1074 ∨ (2 : ℚ) ^ (52 + unitExponent num den) ≤ num / den) ∧
      (num : ℚ) / den < 2 ^ (53 + unitExponent num den) := by
  obtain ⟨hge, hlt⟩ := quotient_bounds hnum hden
  have hmono : ∀ {a b : Int}, a ≤ b → (2 : ℚ) ^ a ≤ 2 ^ b :=
    fun h => zpow_le_zpow_right₀ (by norm_num) h
  unfold unitExponent
  generalize hguess : (num.log2 : Int) - den.log2 - 52 = guess
  have hfits : scaleUp (scaleUp den 2 guess) 2 52 ≤ scaleUp num 2 (-guess) ↔
      (2 : ℚ) ^ (52 + guess) ≤ num / den := by
    have hunits : 2 ^ 52 * scaleUp den 2 guess ≤ scaleUp num 2 (-guess) ↔ _ :=
      mul_scaleUp_le_iff hden (2 ^ 52) guess
    rw [zpow_add₀ (by norm_num), show (2 : ℚ) ^ (52 : Int) = ((2 ^ 52 : Nat) : ℚ) by norm_num,
      ← hunits, Nat.mul_comm]
    rfl
  dsimp only
  split
  next h =>
    refine ⟨?_, hlt.trans_le (hmono (by omega))⟩
    rcases le_or_gt guess (-1074) with hsmall | hlarge
    · exact .inl (by omega)
    · rw [max_eq_right hlarge.le]
      exact .inr (hfits.mp h)
  next h =>
    have hbelow : (num : ℚ) / den < 2 ^ (52 + guess) := lt_of_not_ge fun hq => h (hfits.mpr hq)
    refine ⟨?_, hbelow.trans_le (hmono (by omega))⟩
    rcases le_or_gt (guess - 1) (-1074) with hsmall | hlarge
    · exact .inl (by omega)
    · rw [max_eq_right hlarge.le]
      exact .inr ((hmono (by omega)).trans hge)

theorem unitExponent_ge (num den : Nat) : -1074 ≤ unitExponent num den :=
  Int.le_max_left _ _

/-- The mantissa that `num / den` is rounded to in units of `unitExponent`, before a carry out of
its fifty-three bits. -/
def roundedMantissa (num den : Nat) : Nat :=
  roundedQuotient (scaleUp num 2 (-unitExponent num den)) (scaleUp den 2 (unitExponent num den))

theorem roundedMantissa_le (hnum : 0 < num) (hden : 0 < den) :
    roundedMantissa num den ≤ 2 ^ 53 := by
  refine roundedQuotient_le (scaleUp_pos hden _) ((scaleUp_le_mul_iff hden _ _).mpr ?_)
  have hlt := (unitExponent_bounds hnum hden).2
  rw [zpow_add₀ (by norm_num)] at hlt
  exact_mod_cast hlt.le

/-- A `mantissa` of at most fifty-three bits in a unit, with the carry out of them taken up. -/
def carried (mantissa : Nat) (exponent : Int) : Binary64 :=
  if mantissa = 2 ^ 53 then ⟨2 ^ 52, exponent + 1⟩ else ⟨mantissa, exponent⟩

theorem value_carried (mantissa : Nat) (exponent : Int) :
    (carried mantissa exponent).value = mantissa * 2 ^ exponent := by
  unfold carried value
  split
  next h =>
    rw [h, zpow_add₀ (by norm_num)]
    norm_num
    ring
  next => rfl

theorem nearest?_zero (den : Nat) : nearest? 0 den = some ⟨0, -1074⟩ := by
  unfold nearest?
  exact if_pos rfl

theorem nearest?_of_pos (hnum : 0 < num) (den : Nat) :
    nearest? num den =
      let number := carried (roundedMantissa num den) (unitExponent num den)
      if 971 < number.exponent then none else some number := by
  unfold nearest?
  rw [if_neg hnum.ne']
  rfl

/-- What `nearest?` rounds a positive quotient to is its `roundedMantissa`, `carried`. -/
theorem eq_carried_of_nearest? (hnum : 0 < num) {x : Binary64} (hx : nearest? num den = some x) :
    x = carried (roundedMantissa num den) (unitExponent num den) ∧ x.exponent ≤ 971 := by
  rw [nearest?_of_pos hnum] at hx
  dsimp only at hx
  split at hx
  next => cases hx
  next hrange =>
    cases hx
    exact ⟨rfl, Int.not_lt.mp hrange⟩

theorem value_of_nearest? (hnum : 0 < num) {x : Binary64} (hx : nearest? num den = some x) :
    x.value = roundedMantissa num den * 2 ^ unitExponent num den := by
  obtain ⟨rfl, -⟩ := eq_carried_of_nearest? hnum hx
  exact value_carried _ _

theorem isFinite_carried {mantissa : Nat} {exponent : Int} (hmantissa : mantissa ≤ 2 ^ 53)
    (hge : -1074 ≤ exponent) (hle : (carried mantissa exponent).exponent ≤ 971) :
    (carried mantissa exponent).IsFinite := by
  unfold carried at hle ⊢
  by_cases hcarry : mantissa = 2 ^ 53
  · rw [if_pos hcarry] at hle ⊢
    exact ⟨by norm_num, by dsimp only; omega, hle⟩
  · rw [if_neg hcarry] at hle ⊢
    exact ⟨by dsimp only; omega, hge, hle⟩

/-- **What a quotient is rounded to is a number of the format**: `nearest?` gives an `IsFinite`
one. -/
theorem isFinite_of_nearest? (hden : 0 < den) {x : Binary64} (hx : nearest? num den = some x) :
    x.IsFinite := by
  rcases Nat.eq_zero_or_pos num with rfl | hnum
  · obtain rfl := Option.some.inj ((nearest?_zero den).symm.trans hx)
    exact ⟨by norm_num, by norm_num, by norm_num⟩
  · obtain ⟨rfl, hrange⟩ := eq_carried_of_nearest? hnum hx
    exact isFinite_carried (roundedMantissa_le hnum hden) (unitExponent_ge num den) hrange

/-- **A quotient that is not too large is rounded to a number** by `nearest?`. -/
theorem exists_nearest? (hnum : num < 2 ^ 200) (den : Nat) : ∃ x, nearest? num den = some x := by
  rcases Nat.eq_zero_or_pos num with rfl | hpos
  · exact ⟨_, nearest?_zero den⟩
  have hlog : num.log2 < 200 := (Nat.log2_lt hpos.ne').mpr hnum
  have hexponent : unitExponent num den ≤ 950 := by
    unfold unitExponent
    dsimp only
    split <;> omega
  refine ⟨carried (roundedMantissa num den) (unitExponent num den), ?_⟩
  rw [nearest?_of_pos hpos]
  refine if_neg ?_
  unfold carried
  split <;> dsimp only <;> omega

/-! ## No number of the format is passed over -/

/-- A number whose own unit is not smaller is a whole number of the units `2 ^ exponent`. -/
theorem exists_units (y : Binary64) {exponent : Int} (h : exponent ≤ y.exponent) :
    ∃ n : Nat, y.value = n * 2 ^ exponent := by
  obtain ⟨k, hk⟩ := Int.le.dest h
  refine ⟨y.mantissa * 2 ^ k, ?_⟩
  rw [value, ← hk, zpow_add₀ (by norm_num), zpow_natCast]
  push_cast
  ring

/-- A number of the format whose own unit is smaller has fewer than fifty-three bits in the
unit of rounding. -/
theorem IsFinite.value_le {y : Binary64} (hy : y.IsFinite) {exponent : Int}
    (h : y.exponent < exponent) : y.value ≤ (2 ^ 52 : Nat) * 2 ^ exponent := by
  have hmantissa : (y.mantissa : ℚ) ≤ 2 ^ (53 : Int) := by exact_mod_cast hy.mantissa_lt.le
  calc y.value ≤ 2 ^ (53 : Int) * 2 ^ y.exponent := by unfold value; gcongr
    _ = 2 ^ (53 + y.exponent) := (zpow_add₀ (by norm_num) _ _).symm
    _ ≤ 2 ^ (52 + exponent) := zpow_le_zpow_right₀ (by norm_num) (by omega)
    _ = (2 ^ 52 : Nat) * 2 ^ exponent := by
      rw [zpow_add₀ (by norm_num)]
      norm_num

/-- The `roundedMantissa` of a quotient keeps to its side of every whole number `n` of units. -/
theorem units_sides (hden : 0 < den) (n : Nat) :
    let unit : ℚ := 2 ^ unitExponent num den
    (n * unit ≤ num / den → n * unit ≤ roundedMantissa num den * unit) ∧
      ((num : ℚ) / den ≤ n * unit → roundedMantissa num den * unit ≤ n * unit) := by
  have hscaled := scaleUp_pos hden (unitExponent num den)
  constructor
  · intro h
    have := le_roundedQuotient hscaled ((mul_scaleUp_le_iff hden _ _).mpr h)
    gcongr
    exact_mod_cast this
  · intro h
    have := roundedQuotient_le hscaled ((scaleUp_le_mul_iff hden _ _).mpr h)
    gcongr
    exact_mod_cast this

/-- **Rounding passes over no number of the format**: a number `y` that `IsFinite` and is not above
`num / den` is not above what `nearest?` gives, and one that is not below it is not below. -/
theorem sides_of_nearest? (hden : 0 < den) {x y : Binary64} (hx : nearest? num den = some x)
    (hy : y.IsFinite) :
    (y.value ≤ num / den → y.value ≤ x.value) ∧
      ((num : ℚ) / den ≤ y.value → x.value ≤ y.value) := by
  have hnonneg : 0 ≤ y.value := by unfold value; positivity
  rcases Nat.eq_zero_or_pos num with rfl | hnum
  · obtain rfl := Option.some.inj ((nearest?_zero den).symm.trans hx)
    have hzero : (⟨0, -1074⟩ : Binary64).value = 0 := by simp [value]
    rw [hzero]
    refine ⟨fun h => ?_, fun _ => hnonneg⟩
    simpa using h
  rw [value_of_nearest? hnum hx]
  rcases le_or_gt (unitExponent num den) y.exponent with hge | hlt
  · obtain ⟨n, hn⟩ := exists_units y hge
    rw [hn]
    exact units_sides hden n
  · -- The unit is not the least one, so the quotient has all its bits and is not below
    -- `2 ^ 52` units, and `y` is not above them.
    have hunits := hy.value_le hlt
    have hlarge : ((2 ^ 52 : Nat) : ℚ) * 2 ^ unitExponent num den ≤ num / den := by
      rcases (unitExponent_bounds hnum hden).1 with hleast | hbits
      · have := hy.exponent_ge
        omega
      · rw [zpow_add₀ (by norm_num)] at hbits
        exact_mod_cast hbits
    obtain ⟨hlow, hhigh⟩ := units_sides hden (2 ^ 52)
    exact ⟨fun _ => hunits.trans (hlow hlarge), fun h => (hhigh (h.trans hunits)).trans
      (hlarge.trans h)⟩

/-- The sides of what `nearest?` gives are compared with `n / 2 ^ k` by cross-multiplying. -/
theorem sides_of_fraction (hden : 0 < den) {x : Binary64} (hx : nearest? num den = some x)
    {n k : Nat} (hn : n < 2 ^ 53) (hk : k ≤ 1074) :
    (n * den ≤ num * 2 ^ k → (n : ℚ) / 2 ^ k ≤ x.value) ∧
      (num * 2 ^ k ≤ n * den → x.value ≤ (n : ℚ) / 2 ^ k) := by
  have hy : (⟨n, -k⟩ : Binary64).IsFinite := ⟨hn, by dsimp only; omega, by dsimp only; omega⟩
  have hvalue : (⟨n, -k⟩ : Binary64).value = n / 2 ^ k := by
    rw [value, zpow_neg, zpow_natCast, div_eq_mul_inv]
  have hpos : (0 : ℚ) < den := by exact_mod_cast hden
  obtain ⟨hlow, hhigh⟩ := sides_of_nearest? hden hx hy
  rw [hvalue] at hlow hhigh
  constructor
  · intro h
    refine hlow ((div_le_div_iff₀ (by positivity) hpos).mpr ?_)
    exact_mod_cast h
  · intro h
    refine hhigh ((div_le_div_iff₀ hpos (by positivity)).mpr ?_)
    exact_mod_cast h

/-! ## Whole numbers -/

theorem value_eq_div (x : Binary64) :
    x.value = scaleUp x.mantissa 2 x.exponent / scaleUp 1 2 (-x.exponent) := by
  rw [cast_scaleUp, cast_scaleUp, value, two_zpow, mul_div_assoc]
  push_cast
  ring

theorem le_floor_iff {x : Binary64} {n : Nat} : n ≤ x.floor ↔ (n : ℚ) ≤ x.value := by
  have hscale := scaleUp_pos Nat.one_pos (-x.exponent)
  rw [floor, Nat.le_div_iff_mul_le hscale, value_eq_div,
    le_div_iff₀ (by exact_mod_cast hscale)]
  exact_mod_cast Iff.rfl

theorem le_round_iff {x : Binary64} {n : Nat} : n ≤ x.round ↔ (n : ℚ) ≤ x.value + 1 / 2 := by
  have hscale := scaleUp_pos Nat.one_pos (-x.exponent)
  have hcast : (0 : ℚ) < scaleUp 1 2 (-x.exponent) := by exact_mod_cast hscale
  rw [round, Nat.le_div_iff_mul_le (by omega), value_eq_div,
    div_add_div _ _ hcast.ne' (by norm_num), le_div_iff₀ (by positivity), ← Nat.cast_le (α := ℚ)]
  push_cast
  constructor <;> intro h <;> linarith

/-- **A number of the format is rounded to a whole number that the format has**: `round` is the
`value` of a number that `IsFinite`. -/
theorem IsFinite.exists_value_eq_round {x : Binary64} (hx : x.IsFinite) :
    ∃ y : Binary64, y.IsFinite ∧ y.value = x.round := by
  rcases lt_or_ge x.exponent 0 with hfraction | hwhole
  · have hvalue : x.value ≤ (2 ^ 52 : Nat) * 2 ^ (0 : Int) := hx.value_le hfraction
    have hround : ¬ 2 ^ 53 ≤ x.round := by
      intro h
      have hle := le_round_iff.mp h
      norm_num at hle hvalue
      linarith
    exact ⟨⟨x.round, 0⟩, ⟨by dsimp only; omega, by norm_num, by norm_num⟩, by simp [value]⟩
  · obtain ⟨n, hn⟩ := x.exists_units hwhole
    rw [zpow_zero, mul_one] at hn
    have hle : n ≤ x.round := le_round_iff.mpr (by linarith)
    have hge : ¬ n + 1 ≤ x.round := by
      intro h
      have hlarger := le_round_iff.mp h
      push_cast at hlarger
      linarith
    exact ⟨x, hx, by rw [hn, show x.round = n by omega]⟩

end Binary64

end Stencil.Decimal
