import Stencil.Proofs.Decimal.Nearest
import Stencil.Proofs.Text.Numeral
import Stencil.Time.Tag

/-!
# The beat of a moment

A day has a thousand beats of 86.4 seconds. The second of the day, in UTC+1, is divided by the
binary64 number nearest to 86.4 and cut to a whole number. That number is a little too large,
so the quotient is a little too small.

On a second that is not the beginning of a beat this does no harm: the quotient is more than a
432nd part away from the whole numbers on both sides of it, and there are binary64 numbers in
between (`floor_off_start`). One beat in five begins on a whole second. There the quotient lies
just below a whole number, and whether rounding brings it back depends on how far apart the
binary64 numbers are: they are spaced by the power of two below the beat, and a beat above
27/16 of it is too large for the spacing (`IsLate`). This is decided for the two hundred of
them one by one (`floor_on_start`).

Theorems:
- `beats_tell_second_of_day`: which beat is told, and from which second on.
-/

namespace Stencil.Time

open Decimal Decimal.Binary64 Text

/-- A `second` of the day divided by the length of a beat, the binary64 number nearest to 86.4. -/
def beatQuotient? (second : Nat) : Option Binary64 :=
  nearest? (second * 2 ^ 46) 6079859496950170

theorem ofDecimal?_length : ofDecimal? 864 (-1) = some ⟨6079859496950170, -46⟩ := by
  decide +kernel

theorem quotient?_length (second : Nat) :
    quotient? second ⟨6079859496950170, -46⟩ = beatQuotient? second := by
  have hnum : scaleUp second 2 (- -46) = second * 2 ^ 46 := by simp [scaleUp]
  have hden : scaleUp 6079859496950170 2 (-46) = 6079859496950170 := by simp [scaleUp]
  rw [quotient?, hnum, hden, beatQuotient?]

theorem beats_of_length {length : Binary64} (h : ofDecimal? 864 (-1) = some length)
    (moment : Moment) :
    moment.beats = ((quotient? ((moment.second + 3600) % 86400) length).map floor).getD 0 := by
  unfold Moment.beats
  rw [h]
  rfl

theorem beats_eq (moment : Moment) :
    moment.beats = ((beatQuotient? ((moment.second + 3600) % 86400)).map floor).getD 0 := by
  rw [beats_of_length ofDecimal?_length, quotient?_length]

/-- The beat is told one second late: it begins on a whole second (`5 ∣ beat`) and is more than
27/16 of the power of two below it. -/
def IsLate (beat : Nat) : Prop :=
  5 ∣ beat ∧ 27 * 2 ^ beat.log2 < 16 * beat

instance : DecidablePred IsLate :=
  fun beat => inferInstanceAs (Decidable (5 ∣ beat ∧ 27 * 2 ^ beat.log2 < 16 * beat))

/-- On the seconds `432 * k` on which a beat begins, the beats that are `IsLate` are not told
yet. -/
theorem floor_on_start : ∀ k < 200,
    (beatQuotient? (432 * k)).map floor =
      some (if IsLate (5 * k) then 5 * k - 1 else 5 * k) := by
  decide +kernel

/-- On all other seconds `beatQuotient?` is cut to the beat that the second lies in. -/
theorem floor_off_start {second beat : Nat} (hsecond : second < 86400)
    (hlow : 864 * beat < 10 * second) (hhigh : 10 * second < 864 * (beat + 1)) :
    (beatQuotient? second).map floor = some beat := by
  have hnum : second * 2 ^ 46 < 2 ^ 200 := by omega
  obtain ⟨x, hx⟩ := exists_nearest? hnum 6079859496950170
  unfold beatQuotient?
  rw [hx, Option.map_some]
  congr 1
  have hge : beat ≤ x.floor := by
    have := (sides_of_fraction (n := beat) (k := 0) (by omega) hx (by omega) (by omega)).1
      (by omega)
    rw [le_floor_iff]
    norm_num at this
    linarith
  have hle : ¬ beat + 1 ≤ x.floor := by
    intro h
    have hbelow := (sides_of_fraction (n := 512 * beat + 511) (k := 9) (by omega) hx (by omega)
      (by omega)).2 (by omega)
    rw [le_floor_iff] at h
    push_cast at hbelow h
    linarith
  omega

/-- The beat that is told for a `second` of the day in UTC+1: the one that it lies in, but the one
before on the second on which a beat that `IsLate` begins. -/
def toldBeat (second : Nat) : Nat :=
  let beat := 10 * second / 864
  if 864 * beat = 10 * second ∧ IsLate beat then beat - 1 else beat

theorem map_floor_beatQuotient? {second : Nat} (hsecond : second < 86400) :
    (beatQuotient? second).map floor = some (toldBeat second) := by
  have hlow := Nat.mul_div_le (10 * second) 864
  have hhigh := Nat.lt_mul_div_succ (10 * second) (show 0 < 864 by omega)
  unfold toldBeat
  generalize 10 * second / 864 = beat at hlow hhigh
  dsimp only
  rcases Nat.lt_or_eq_of_le hlow with hoff | hon
  · rw [floor_off_start hsecond hoff hhigh, if_neg (by omega)]
  · -- 864 and 10 have the factor 2 in common only
    obtain ⟨k, rfl⟩ : ∃ k, second = 432 * k := ⟨second / 432, by omega⟩
    obtain rfl : beat = 5 * k := by omega
    rw [floor_on_start k (by omega)]
    simp only [hon, true_and]

theorem toldBeat_lt {second : Nat} (hsecond : second < 86400) : toldBeat second < 1000 := by
  unfold toldBeat
  dsimp only
  split <;> omega

/-- The second on which a `beat` is first told: the first one not before so many times 86.4 seconds,
or the second after it if the beat `IsLate`. -/
def firstSecond (beat : Nat) : Nat :=
  (432 * beat + 4) / 5 + if IsLate beat then 1 else 0

theorem le_toldBeat_iff {second beat : Nat} :
    beat ≤ toldBeat second ↔ firstSecond beat ≤ second := by
  unfold toldBeat firstSecond
  dsimp only
  by_cases hsame : 10 * second / 864 = beat
  · rw [hsame]
    by_cases hlate : IsLate beat
    · have hfive : 5 ∣ beat := hlate.1
      have hpos : 0 < beat := by
        have := hlate.2
        omega
      rw [if_pos hlate]
      split
      next h => omega
      next h =>
        have hafter : 864 * beat ≠ 10 * second := fun heq => h ⟨heq, hlate⟩
        omega
    · rw [if_neg hlate, if_neg fun h => hlate h.2]
      omega
  · -- away from its beginning a beat is told alike, late or not
    split <;> split <;> omega

/-- **The beats tell the second of the day in UTC+1**, as three digits for `toldBeat` from 000 to
999. A `beat` has been told from its `firstSecond` on: this is the first second that is not before
its beginning, and for a late one the second after it. -/
theorem beats_tell_second_of_day (stamp now : Int) (h : isFormattable stamp) :
    let second := ((stamp + 3600) % 86400).toNat
    let printed := Tag.beats.print stamp now
    printed.length = 3 ∧ readNatural? 10 printed = some (toldBeat second) ∧
      toldBeat second ≤ 999 ∧ ∀ beat, beat ≤ toldBeat second ↔ firstSecond beat ≤ second := by
  intro second printed
  have hsecond : second < 86400 := by omega
  have hbeats : (momentOf stamp).beats = toldBeat second := by
    have hday : ((momentOf stamp).second + 3600) % 86400 = second := by
      unfold second momentOf Moment.ofTimestamp
      rw [if_pos h]
      dsimp only
      omega
    rw [beats_eq, hday, map_floor_beatQuotient? hsecond]
    rfl
  have hlt := toldBeat_lt hsecond
  have hprinted : printed = zeroPadded 3 (decimal (toldBeat second)) := by
    rw [← hbeats]
    rfl
  rw [hprinted]
  exact ⟨length_zeroPadded_decimal (by omega) hlt, readNatural?_zeroPadded 3 _, by omega,
    fun beat => le_toldBeat_iff⟩

/-- The last day of 1969 at eleven o'clock, which is noon in UTC+1: the 500th beat has begun, but
is not told yet. -/
theorem beats_tell_second_of_day_late :
    isFormattable (-46800) ∧ (Tag.beats.print (-46800) 0).length = 3 ∧
      readNatural? 10 (Tag.beats.print (-46800) 0) = some 499 := by
  have hformattable : isFormattable (-46800) := by decide +kernel
  have hbeat : toldBeat ((-46800 + 3600) % 86400 : Int).toNat = 499 := by decide +kernel
  obtain ⟨hlength, hread, -, -⟩ := beats_tell_second_of_day (-46800) 0 hformattable
  rw [hbeat] at hread
  exact ⟨hformattable, hlength, hread⟩

/-- The same on the first day of 1970. -/
theorem beats_of_noon :
    isFormattable 39600 ∧ 10 * ((39600 + 3600) % 86400) / 864 = 500 ∧
      Tag.beats.print 39600 0 = "499".toList := by
  refine ⟨?_, ?_, ?_⟩
  all_goals decide +kernel

end Stencil.Time
