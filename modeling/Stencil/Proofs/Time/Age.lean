import Stencil.Proofs.Calendar.Date
import Stencil.Proofs.Decimal.Nearest
import Stencil.Time.Age

/-!
# Ages are told as whole numbers tell them

A count is divided by the size of a unit in binary64 arithmetic and rounded, and the next
division starts from there. What comes out is what exact division with a half going up would
tell, between any two timestamps (`relative_tells_whole_age`).

The half between two whole numbers is a binary64 number, and rounding passes over none, so a
quotient stays on its side of the half as long as there are halves (`binaryQuotient_eq`).
Greater counts may come out differently, but by neither way to divide do they come down to the
limit of a unit: two counts are alike when they are the same or both too large, and alike they
remain (`Alike.divide`). Such ages are told by their date.

The table of units is gone through by induction; what its sizes and limits have to be like for
each step is `Leads`. That no count is zero, that none reaches its limit, and that an age does
not fall as time goes on then follow for the table as a whole.

Theorems:
- `relative_tells_whole_age`: what is told, and how it goes on.
-/

namespace Stencil.Time

open Decimal Decimal.Binary64

/-! ## Division that rounds -/

/-- The quotient `count / size` rounded to the nearest whole number, a half going up. -/
def halfUp (count size : Nat) : Nat :=
  (2 * count + size) / (2 * size)

variable {count size : Nat}

theorem halfUp_bounds (count : Nat) (hsize : 0 < size) :
    halfUp count size * (2 * size) ≤ 2 * count + size ∧
      2 * count + size < (halfUp count size + 1) * (2 * size) := by
  refine ⟨Nat.div_mul_le_self _ _, ?_⟩
  rw [Nat.add_mul, Nat.one_mul]
  exact Nat.lt_div_mul_add (by omega)

theorem halfUp_mono (size : Nat) : Monotone (halfUp · size) := by
  intro a b hab
  exact Nat.div_le_div_right (by omega)

theorem exists_binaryQuotient_eq (hcount : count ≤ 2 ^ 64) (size : Nat) :
    ∃ x, nearest? count size = some x ∧ binaryQuotient count size = x.round := by
  obtain ⟨x, hx⟩ := exists_nearest? (hcount.trans_lt (by norm_num)) size
  refine ⟨x, hx, ?_⟩
  unfold binaryQuotient
  rw [hx]
  rfl

/-- Below the counts for which binary64 has no halves, `binaryQuotient` divides and rounds as
`halfUp` does. A quotient by 64 or less that is below a half is so by the 128th part of one at
least, so that there is a binary64 number between the two. -/
theorem binaryQuotient_eq (hsize : 0 < size) (hle : size ≤ 64) (hcount : count < 2 ^ 45) :
    binaryQuotient count size = halfUp count size := by
  have hmax : count ≤ 2 ^ 64 := by omega
  obtain ⟨x, hx, hround⟩ := exists_binaryQuotient_eq hmax size
  obtain ⟨hlow, hhigh⟩ := halfUp_bounds count hsize
  rw [hround]
  generalize halfUp count size = whole at hlow hhigh
  have hwhole : whole < 2 ^ 46 := by nlinarith
  have hge : whole ≤ x.round := by
    rcases Nat.eq_zero_or_pos whole with hzero | hpos
    · omega
    · -- the half below the whole number is not above the quotient
      obtain ⟨n, rfl⟩ := Nat.exists_eq_add_of_lt hpos
      have hhalf := (sides_of_fraction (n := 2 * n + 1) (k := 1) hsize hx (by omega)
        (by omega)).1 (by nlinarith)
      rw [le_round_iff]
      push_cast at hhalf ⊢
      linarith
  have hle' : ¬ whole + 1 ≤ x.round := by
    intro h
    -- 63/128 above the whole number is not below the quotient
    have hbelow := (sides_of_fraction (n := 128 * whole + 63) (k := 7) hsize hx (by omega)
      (by omega)).2 (by nlinarith)
    rw [le_round_iff] at h
    push_cast at hbelow h
    linarith
  omega

/-- The `binaryQuotient`, a count from one step to the next, is itself a binary64 number, so that
nothing is lost by keeping it as a natural number. -/
theorem exists_value_eq_binaryQuotient (hsize : 0 < size) (hcount : count ≤ 2 ^ 64) :
    ∃ x : Binary64, x.IsFinite ∧ x.value = binaryQuotient count size := by
  obtain ⟨x, hx, hround⟩ := exists_binaryQuotient_eq hcount size
  rw [hround]
  exact (isFinite_of_nearest? hsize hx).exists_value_eq_round

/-- What is too large to be counted in one unit, not below `64 * bound`, stays large in the next. -/
theorem le_binaryQuotient {bound : Nat} (hsize : 0 < size) (hle : size ≤ 64)
    (hbound : bound < 2 ^ 53) (hcount : 64 * bound ≤ count) (hmax : count ≤ 2 ^ 64) :
    bound ≤ binaryQuotient count size := by
  obtain ⟨x, hx, hround⟩ := exists_binaryQuotient_eq hmax size
  have := (sides_of_fraction (n := bound) (k := 0) hsize hx hbound (by omega)).1 (by nlinarith)
  rw [hround, le_round_iff]
  norm_num at this
  linarith

theorem binaryQuotient_le (hsize : 0 < size) (hmax : count ≤ 2 ^ 64) :
    binaryQuotient count size ≤ 2 ^ 64 := by
  obtain ⟨x, hx, hround⟩ := exists_binaryQuotient_eq hmax size
  have hy : (⟨1, 64⟩ : Binary64).IsFinite := ⟨by norm_num, by norm_num, by norm_num⟩
  have hvalue : (⟨1, 64⟩ : Binary64).value = 2 ^ 64 := by norm_num [value]
  have hquotient : (count : ℚ) / size ≤ 2 ^ 64 := by
    have hone : (1 : ℚ) ≤ size := by exact_mod_cast hsize
    have hcount : (count : ℚ) ≤ 2 ^ 64 := by exact_mod_cast hmax
    rw [div_le_iff₀ (by positivity)]
    nlinarith
  have hle := (sides_of_nearest? hsize hx hy).2 (by rwa [hvalue])
  rw [hround, ← Nat.lt_succ_iff, ← not_le]
  intro h
  rw [Nat.succ_eq_add_one, le_round_iff] at h
  rw [hvalue] at hle
  push_cast at h
  linarith

theorem le_halfUp {bound : Nat} (hsize : 0 < size) (hle : size ≤ 64)
    (hcount : 64 * bound ≤ count) : bound ≤ halfUp count size := by
  refine (Nat.le_div_iff_mul_le (by omega)).mpr ?_
  nlinarith

/-! ## Counts that come to the same -/

/-- Two counts `a` and `b` are the same, or both are at least a `bound`. -/
def Alike (bound a b : Nat) : Prop :=
  a = b ∨ bound ≤ a ∧ bound ≤ b

/-- One division: counts that are `Alike` stay so under `binaryQuotient` and `halfUp`. -/
theorem Alike.divide {bound a b : Nat} (h : Alike (64 * bound) a b) (hsize : 0 < size)
    (hle : size ≤ 64) (hbound : 64 * bound ≤ 2 ^ 45) (hmax : a ≤ 2 ^ 64) :
    Alike bound (binaryQuotient a size) (halfUp b size) := by
  have hlarge : 64 * bound ≤ a → bound ≤ binaryQuotient a size :=
    fun ha => le_binaryQuotient hsize hle (by omega) ha hmax
  rcases h with rfl | ⟨ha, hb⟩
  · rcases Nat.lt_or_ge a (2 ^ 45) with hsmall | hge
    · exact .inl (binaryQuotient_eq hsize hle hsmall)
    · exact .inr ⟨hlarge (by omega), le_halfUp hsize hle (by omega)⟩
  · exact .inr ⟨hlarge ha, le_halfUp hsize hle hb⟩

/-! ## Going through the units -/

/-- The place of a unit among the units. -/
def AgeUnit.rank : AgeUnit → Nat
  | .second => 0
  | .minute => 1
  | .hour => 2
  | .day => 3
  | .week => 4

/-- The steps can be gone through from a count `reached` on: each unit is larger than those before
it and is half reached where they end, and no `size` or `limit` is above 64. -/
inductive Leads : Nat → List (AgeUnit × Nat × Nat) → Prop where
  | nil (reached : Nat) : Leads reached []
  | cons {reached size limit : Nat} {unit : AgeUnit} {rest : List (AgeUnit × Nat × Nat)}
      (hsize : 0 < size) (hle : size ≤ 64) (hreached : size ≤ 2 * reached) (hlimit : limit ≤ 64)
      (hrank : ∀ step ∈ rest, unit.rank < step.1.rank) (hrest : Leads limit rest) :
      Leads reached ((unit, size, limit) :: rest)

theorem leads_steps : Leads 60 steps := by
  unfold steps
  repeat' constructor
  all_goals decide

/-- Both `binaryQuotient` and `halfUp` lead to the same age from counts that are `Alike`. -/
theorem ageFrom_eq {reached : Nat} {rest : List (AgeUnit × Nat × Nat)}
    (hleads : Leads reached rest) :
    ∀ {a b : Nat}, Alike (64 ^ (rest.length + 1)) a b → 64 ^ (rest.length + 1) ≤ 2 ^ 45 →
      a ≤ 2 ^ 64 → ageFrom binaryQuotient rest a = ageFrom halfUp rest b := by
  induction hleads with
  | nil => intro a b _ _ _; rfl
  | @cons _ size limit unit rest hsize hle _ hlimit _ _ ih =>
    intro a b hab hbound hmax
    have hpow : 64 ^ (rest.length + 1 + 1) = 64 * 64 ^ (rest.length + 1) := Nat.pow_succ'
    rw [List.length_cons, hpow] at hab hbound
    have halike := hab.divide hsize hle hbound hmax
    have hrec : ageFrom binaryQuotient rest (binaryQuotient a size) =
        ageFrom halfUp rest (halfUp b size) :=
      ih halike (by omega) (binaryQuotient_le hsize hmax)
    have hlarge : 64 ≤ 64 ^ (rest.length + 1) := Nat.le_self_pow (by omega) 64
    unfold ageFrom
    dsimp only
    rw [hrec]
    rcases halike with heq | ⟨ha, hb⟩
    · rw [heq]
    · rw [if_neg (by omega), if_neg (by omega)]

/-- An age that `ageFrom` counts is counted in a unit of the steps, at least once and below the
`limit` of the unit. -/
theorem bounds_of_ageFrom {reached : Nat} {rest : List (AgeUnit × Nat × Nat)}
    (hleads : Leads reached rest) {age : Int} {unit : AgeUnit} :
    ∀ {n : Nat}, reached ≤ n → ageFrom halfUp rest n = .ago age unit →
      ∃ size limit : Nat, (unit, size, limit) ∈ rest ∧ 1 ≤ age ∧ age < limit := by
  induction hleads with
  | nil => intro n _ h; cases h
  | @cons reached size limit first rest hsize _ hreached _ _ _ ih =>
    intro n hn h
    unfold ageFrom at h
    dsimp only at h
    split at h
    next hlt =>
      obtain ⟨rfl, rfl⟩ := Age.ago.inj h
      have hpos : 1 ≤ halfUp n size := (Nat.le_div_iff_mul_le (by omega)).mpr (by omega)
      exact ⟨size, limit, List.mem_cons_self .., by omega, by omega⟩
    next hge =>
      obtain ⟨size', limit', hmem, hbounds⟩ := ih (Nat.le_of_not_lt hge) h
      exact ⟨size', limit', List.mem_cons_of_mem _ hmem, hbounds⟩

/-- An age is told as at most another one: in a unit of a smaller `rank`, or with a smaller count of
the same, or the other one is told by its date. -/
def Age.le : Age → Age → Prop
  | _, .longAgo => True
  | .longAgo, .ago _ _ => False
  | .ago count unit, .ago other otherUnit =>
    unit.rank < otherUnit.rank ∨ unit = otherUnit ∧ count ≤ other

theorem ago_le_of_rank_lt {count : Int} {unit : AgeUnit} {age : Age}
    (h : ∀ other otherUnit, age = .ago other otherUnit → unit.rank < otherUnit.rank) :
    (Age.ago count unit).le age := by
  cases age with
  | ago other otherUnit => exact .inl (h other otherUnit rfl)
  | longAgo => trivial

/-- A greater count leads to no smaller age by `ageFrom`. -/
theorem ageFrom_mono {reached : Nat} {rest : List (AgeUnit × Nat × Nat)}
    (hleads : Leads reached rest) :
    ∀ {a b : Nat}, reached ≤ a → a ≤ b → (ageFrom halfUp rest a).le (ageFrom halfUp rest b) := by
  induction hleads with
  | nil => intro a b _ _; trivial
  | @cons reached size limit unit rest hsize _ _ _ hrank hrest ih =>
    intro a b _ hab
    have hdivided : halfUp a size ≤ halfUp b size := halfUp_mono size hab
    unfold ageFrom
    dsimp only
    by_cases hb : halfUp b size < limit
    · rw [if_pos hb, if_pos (by omega)]
      exact .inr ⟨rfl, by omega⟩
    · rw [if_neg hb]
      by_cases ha : halfUp a size < limit
      · rw [if_pos ha]
        refine ago_le_of_rank_lt fun other otherUnit hother => ?_
        obtain ⟨_, _, hmem, _⟩ := bounds_of_ageFrom hrest (Nat.le_of_not_lt hb) hother
        exact hrank _ hmem
      · rw [if_neg ha]
        exact ih (Nat.le_of_not_lt ha) hdivided

/-! ## Ages of timestamps -/

/-- The age of `d` seconds, each unit counted in whole numbers from the one before. -/
def wholeAge (d : Int) : Age :=
  let minutes := (d + 30) / 60
  let hours := (minutes + 30) / 60
  let days := (hours + 12) / 24
  let weeks := (2 * days + 7) / 14
  if d < 60 then .ago d .second
  else if minutes < 60 then .ago minutes .minute
  else if hours < 24 then .ago hours .hour
  else if days < 7 then .ago days .day
  else if weeks < 4 then .ago weeks .week
  else .longAgo

/-- An age in words: how many of a unit, the unit in the singular for one and else in the
plural, or the date. -/
def Age.inWords (date : Date) : Age → Text
  | .ago count unit =>
    Text.signedDecimal count ++ " ".toList ++ unit.name ++
      (if count = 1 then "" else "s").toList ++ " ago".toList
  | .longAgo => "on ".toList ++ date.inWords

/-- The count from which a larger unit is used. -/
def AgeUnit.limit : AgeUnit → Int
  | .second => 60
  | .minute => 60
  | .hour => 24
  | .day => 7
  | .week => 4

theorem limit_eq {unit : AgeUnit} {size limit : Nat} (h : (unit, size, limit) ∈ steps) :
    unit.limit = limit := by
  simp only [steps, List.mem_cons, List.not_mem_nil, or_false, Prod.mk.injEq] at h
  rcases h with ⟨rfl, _, rfl⟩ | ⟨rfl, _, rfl⟩ | ⟨rfl, _, rfl⟩ | ⟨rfl, _, rfl⟩ <;> rfl

theorem wholeAge_of_lt {d : Int} (hd : d < 60) : wholeAge d = .ago d .second := by
  unfold wholeAge
  exact if_pos hd

/-- The formulas of `wholeAge` are the `steps` with the exact division `halfUp`. -/
theorem wholeAge_eq_ageFrom {n : Nat} (hn : 60 ≤ n) : wholeAge n = ageFrom halfUp steps n := by
  have hminutes : ((n : Int) + 30) / 60 = halfUp n 60 := by
    unfold halfUp
    omega
  generalize hm : halfUp n 60 = minutes at hminutes
  have hhours : ((minutes : Int) + 30) / 60 = halfUp minutes 60 := by
    unfold halfUp
    omega
  generalize hh : halfUp minutes 60 = hours at hhours
  have hdays : ((hours : Int) + 12) / 24 = halfUp hours 24 := by
    unfold halfUp
    omega
  generalize hd : halfUp hours 24 = days at hdays
  have hweeks : (2 * (days : Int) + 7) / 14 = halfUp days 7 := by
    unfold halfUp
    omega
  have hlarge : ¬ (n : Int) < 60 := by omega
  simp only [wholeAge, hminutes, hhours, hdays, hweeks, if_neg hlarge, steps, ageFrom, hm, hh, hd]
  norm_cast

theorem elapsed_mono (timestamp : Int) {now later : Int} (h : now ≤ later) :
    elapsed timestamp now ≤ elapsed timestamp later := by
  unfold elapsed
  omega

/-- The `age` that binary64 arithmetic gives is the `wholeAge` that whole numbers give. -/
theorem age_eq (timestamp now : Int) :
    age timestamp now = wholeAge (elapsed timestamp now) := by
  unfold age
  dsimp only
  have hmax : elapsed timestamp now < 2 ^ 63 := by
    unfold elapsed
    omega
  generalize elapsed timestamp now = d at hmax
  by_cases hsmall : d < 60
  · rw [if_pos hsmall, wholeAge_of_lt hsmall]
  · obtain ⟨n, rfl⟩ := Int.eq_ofNat_of_zero_le (show 0 ≤ d by omega)
    rw [if_neg hsmall, Int.toNat_natCast, wholeAge_eq_ageFrom (by omega)]
    -- the count of seconds is itself a quotient by one
    have hone : halfUp n 1 = n := by
      unfold halfUp
      omega
    have halike : Alike (64 ^ (steps.length + 1)) (binaryQuotient n 1) (halfUp n 1) :=
      Alike.divide (.inl rfl) (by omega) (by omega) (by decide) (by omega)
    rw [hone] at halike
    exact ageFrom_eq leads_steps halike (by decide) (binaryQuotient_le (by omega) (by omega))

theorem relative_eq (timestamp now : Int) :
    relative timestamp now = (age timestamp now).inWords (momentOf timestamp).date := by
  unfold relative Age.inWords
  cases age timestamp now with
  | ago count unit =>
    dsimp only [pluralEnding]
    split <;> rfl
  | longAgo => rfl

theorem wholeAge_bounds {d : Int} (hd : 60 ≤ d) {count : Int} {unit : AgeUnit}
    (h : wholeAge d = .ago count unit) : 1 ≤ count ∧ count < unit.limit := by
  obtain ⟨n, rfl⟩ := Int.eq_ofNat_of_zero_le (show 0 ≤ d by omega)
  rw [wholeAge_eq_ageFrom (by omega)] at h
  obtain ⟨size, limit, hmem, hpos, hlt⟩ := bounds_of_ageFrom leads_steps (by omega) h
  rw [limit_eq hmem]
  exact ⟨hpos, hlt⟩

theorem wholeAge_mono {d later : Int} (h : d ≤ later) : (wholeAge d).le (wholeAge later) := by
  by_cases hlater : later < 60
  · rw [wholeAge_of_lt (by omega), wholeAge_of_lt hlater]
    exact .inr ⟨rfl, h⟩
  · obtain ⟨m, rfl⟩ := Int.eq_ofNat_of_zero_le (show 0 ≤ later by omega)
    rw [wholeAge_eq_ageFrom (by omega)]
    by_cases hd : d < 60
    · rw [wholeAge_of_lt hd]
      refine ago_le_of_rank_lt fun other otherUnit hother => ?_
      obtain ⟨_, _, hmem, _⟩ := bounds_of_ageFrom leads_steps (by omega) hother
      exact (by decide : ∀ step ∈ steps, AgeUnit.second.rank < step.1.rank) _ hmem
    · obtain ⟨n, rfl⟩ := Int.eq_ofNat_of_zero_le (show 0 ≤ d by omega)
      rw [wholeAge_eq_ageFrom (by omega)]
      exact ageFrom_mono leads_steps (by omega) (by omega)

/-- The date that an age falls back on: that of the day of the `timestamp`, or `Date.epoch`. -/
theorem date_momentOf (timestamp : Int) :
    if isFormattable timestamp then (momentOf timestamp).date.IsDay (timestamp / 86400)
    else (momentOf timestamp).date = Date.epoch := by
  unfold momentOf
  split
  next => exact Date.isDay_ofDays _
  next => rfl

/-- **An age is told as whole numbers tell it.** The first part: between any two timestamps,
`relative` writes the `wholeAge` of the seconds `elapsed`, in words, or the date of the timestamp,
which is `Date.epoch` if it is out of range. The second part: from one minute on a count is at least
one and below the `limit` of its unit. The third part: as time goes on, from `now` to `later`, the
age that is told does not fall (`Age.le`). -/
theorem relative_tells_whole_age (timestamp now : Int) :
    (∃ date : Date,
      (if isFormattable timestamp then date.IsDay (timestamp / 86400) else date = Date.epoch) ∧
        relative timestamp now = (wholeAge (elapsed timestamp now)).inWords date) ∧
      (60 ≤ elapsed timestamp now →
        ∀ count unit, wholeAge (elapsed timestamp now) = .ago count unit →
          1 ≤ count ∧ count < unit.limit) ∧
      ∀ later, now ≤ later →
        (wholeAge (elapsed timestamp now)).le (wholeAge (elapsed timestamp later)) := by
  refine ⟨⟨(momentOf timestamp).date, date_momentOf timestamp, ?_⟩, ?_, ?_⟩
  · rw [relative_eq, age_eq]
  · intro hd count unit h
    exact wholeAge_bounds hd h
  · intro later hlater
    exact wholeAge_mono (elapsed_mono timestamp hlater)

/-- The day of the least timestamp `-2 ^ 63` is in the calendar, but not among the dates that can be
told, so its age is not told by its date. -/
theorem relative_of_least_timestamp :
    (⟨-292277022657, 1, 27⟩ : Date).IsDay (-2 ^ 63 / 86400) ∧
      relative (-2 ^ 63) 0 ≠ (wholeAge (elapsed (-2 ^ 63) 0)).inWords ⟨-292277022657, 1, 27⟩ ∧
      relative (-2 ^ 63) 0 = "on January 1, 1970".toList := by
  refine ⟨Date.isDay_iff.mpr ⟨⟨?_, ?_, ?_, ?_⟩, ?_⟩, ?_, ?_⟩
  all_goals decide +kernel

end Stencil.Time
