import Mathlib.Tactic.IntervalCases
import Stencil.Calendar

/-!
# Which date is which day

The Gregorian calendar is told here by its months: how many days each has, which date
follows which, and that the first of January 1970 is day zero. That gives every day its
date, before 1970 as after it (`IsDay`), without a formula. The arithmetic of counts and
cycles is then measured against it: `toDays` and `ofDays` are the two directions of
`IsDay` (`isDay_iff`, `isDay_ofDays`).

The cycle of four hundred years is taken apart into centuries, fours of years and years,
beginning in March (`exists_marchYear`); what is left is a day of a year that ends with
February, whose months have the same lengths every time.
-/

namespace Stencil.Date

/-! ## The calendar, month by month -/

/-- The number of days in a month. -/
def daysInMonth (year : Int) : Nat → Nat
  | 2 => if isLeap year then 29 else 28
  | 4 | 6 | 9 | 11 => 30
  | _ => 31

/-- The date is in the calendar: its month is one of twelve, and its day one of `daysInMonth`. -/
structure Valid (date : Date) : Prop where
  month_pos : 1 ≤ date.month
  month_le : date.month ≤ 12
  day_pos : 1 ≤ date.day
  day_le : date.day ≤ daysInMonth date.year date.month

/-- The date of the day after. -/
def next (date : Date) : Date :=
  if date.day < daysInMonth date.year date.month then { date with day := date.day + 1 }
  else if date.month < 12 then ⟨date.year, date.month + 1, 1⟩
  else ⟨date.year + 1, 1, 1⟩

/-- The first of January 1970. -/
def epoch : Date := ⟨1970, 1, 1⟩

/-- The date is that of the day so many days after `epoch`, or before it: days are counted by going
on from one date to the `next`. -/
inductive IsDay : Date → Int → Prop where
  | epoch : IsDay epoch 0
  | next {date : Date} {days : Int} : IsDay date days → IsDay date.next (days + 1)
  -- `next` leads back into the calendar from dates outside it, such as a thirtieth of February.
  | previous {date : Date} {days : Int} :
      date.Valid → IsDay date.next (days + 1) → IsDay date days

theorem daysInMonth_pos (year : Int) (month : Nat) : 1 ≤ daysInMonth year month := by
  unfold daysInMonth
  repeat' split
  all_goals decide

theorem daysInMonth_le (year : Int) (month : Nat) : daysInMonth year month ≤ 31 := by
  unfold daysInMonth
  repeat' split
  all_goals decide

/-- January has thirty-one days in every year. -/
theorem valid_january (year : Int) {day : Nat} (hpos : 1 ≤ day) (hle : day ≤ 31) :
    Valid ⟨year, 1, day⟩ :=
  ⟨Nat.le_refl 1, Nat.le_add_left 1 11, hpos, hle⟩

theorem valid_next {date : Date} (h : date.Valid) : date.next.Valid := by
  unfold next
  split
  next hday => exact ⟨h.month_pos, h.month_le, Nat.le_add_left 1 _, hday⟩
  next =>
    split
    next hmonth => exact ⟨Nat.le_add_left 1 _, hmonth, Nat.le_refl 1, daysInMonth_pos _ _⟩
    next => exact valid_january _ (Nat.le_refl 1) (by decide)

/-! ## Days of years and months -/

theorem daysBeforeYear_succ (year : Int) :
    daysBeforeYear (year + 1) = daysBeforeYear year + if isLeap year then 366 else 365 := by
  unfold daysBeforeYear isLeap
  split
  all_goals
    next h =>
      simp only [decide_eq_true_eq] at h
      omega

theorem daysBeforeYear_mono {year later : Int} (h : year ≤ later) :
    daysBeforeYear year ≤ daysBeforeYear later := by
  unfold daysBeforeYear
  omega

@[simp] theorem daysBeforeMonth_january (year : Int) : daysBeforeMonth year 1 = 0 := by
  simp [daysBeforeMonth, commonDaysBeforeMonth]

@[simp] theorem daysBeforeMonth_february (year : Int) : daysBeforeMonth year 2 = 31 := by
  simp [daysBeforeMonth, commonDaysBeforeMonth]

theorem daysBeforeMonth_succ (year : Int) {month : Nat} (hpos : 1 ≤ month) (hlt : month < 12) :
    daysBeforeMonth year (month + 1) = daysBeforeMonth year month + daysInMonth year month := by
  unfold daysBeforeMonth daysInMonth
  interval_cases month <;> cases isLeap year <;> rfl

/-- With December the year is over: `daysBeforeYear` of the next one has its days added. -/
theorem daysBeforeYear_succ_eq (year : Int) :
    daysBeforeYear (year + 1)
      = daysBeforeYear year + daysBeforeMonth year 12 + daysInMonth year 12 := by
  rw [daysBeforeYear_succ]
  unfold daysBeforeMonth daysInMonth
  cases isLeap year <;> simp [commonDaysBeforeMonth] <;> omega

theorem daysBeforeMonth_add_le (year : Int) {month later : Nat} (hpos : 1 ≤ month)
    (hlt : month < later) (hlater : later ≤ 12) :
    daysBeforeMonth year month + daysInMonth year month ≤ daysBeforeMonth year later := by
  induction later, hlt using Nat.le_induction with
  | base => exact (daysBeforeMonth_succ year hpos (by omega)).ge
  | succ later hlt ih =>
    rw [daysBeforeMonth_succ year (by omega) (by omega)]
    exact Nat.le_add_right_of_le (ih (by omega))

theorem toDays_first (year : Int) : toDays ⟨year, 1, 1⟩ = daysBeforeYear year := by
  simp [toDays]

theorem toDays_next {date : Date} (h : date.Valid) : date.next.toDays = date.toDays + 1 := by
  obtain ⟨year, month, day⟩ := date
  have hpos : 1 ≤ month := h.month_pos
  have hle : month ≤ 12 := h.month_le
  have hday : 1 ≤ day := h.day_pos
  have hlast : day ≤ daysInMonth year month := h.day_le
  unfold next
  split
  next => simp only [toDays]; omega
  next hend =>
    obtain rfl : day = daysInMonth year month := by dsimp only at hend; omega
    split
    next hmonth =>
      have hmove := daysBeforeMonth_succ year hpos hmonth
      simp only [toDays]
      omega
    next hmonth =>
      obtain rfl : month = 12 := by dsimp only at hmonth; omega
      rw [toDays_first, daysBeforeYear_succ_eq]
      simp only [toDays]
      omega

/-- The day `toDays` of a date lies in its year, between two values of `daysBeforeYear`. -/
theorem toDays_mem_year {date : Date} (h : date.Valid) :
    daysBeforeYear date.year ≤ date.toDays ∧ date.toDays < daysBeforeYear (date.year + 1) := by
  have hday := h.day_pos
  have hlast := h.day_le
  have hyear := daysBeforeYear_succ_eq date.year
  have hmonth : daysBeforeMonth date.year date.month + daysInMonth date.year date.month
      ≤ daysBeforeMonth date.year 12 + daysInMonth date.year 12 := by
    rcases Nat.lt_or_eq_of_le h.month_le with hlt | heq
    · exact Nat.le_add_right_of_le (daysBeforeMonth_add_le _ h.month_pos hlt (Nat.le_refl 12))
    · rw [heq]
  unfold toDays
  omega

/-- No two dates that are `Valid` have the same `toDays`: the years do not overlap, nor do the
months of one. -/
theorem eq_of_toDays_eq {date other : Date} (hdate : date.Valid) (hother : other.Valid)
    (h : date.toDays = other.toDays) : date = other := by
  have hyear : date.year = other.year := by
    have hmem := toDays_mem_year hdate
    have hmem' := toDays_mem_year hother
    rcases Int.lt_trichotomy date.year other.year with hlt | heq | hgt
    · have := daysBeforeYear_mono (Int.add_one_le_iff.mpr hlt)
      omega
    · exact heq
    · have := daysBeforeYear_mono (Int.add_one_le_iff.mpr hgt)
      omega
  obtain ⟨year, month, day⟩ := date
  obtain ⟨year', month', day'⟩ := other
  obtain rfl : year = year' := hyear
  obtain ⟨hpos, hle, hday, hlast⟩ := hdate
  obtain ⟨hpos', hle', hday', hlast'⟩ := hother
  simp only [toDays] at *
  have hmonth : month = month' := by
    rcases Nat.lt_trichotomy month month' with hlt | heq | hgt
    · have := daysBeforeMonth_add_le year hpos hlt hle'
      omega
    · exact heq
    · have := daysBeforeMonth_add_le year hpos' hgt hle
      omega
  subst hmonth
  obtain rfl : day = day' := by omega
  rfl

/-! ## The date of a day -/

/-- A day of the cycle, with years that begin in March, lies so many centuries, fours of years,
years and days behind its start. Only the last of four years has a day `365`, and not if it ends a
century that is not the last one. -/
theorem exists_yearOfCycle {day : Nat} (h : day < 146097) :
    ∃ century four year rest, century < 4 ∧ four < 25 ∧ year < 4 ∧
      (rest < 365 ∨ rest = 365 ∧ year = 3 ∧ (four < 24 ∨ century = 3)) ∧
      day = 36524 * century + 1461 * four + 365 * year + rest := by
  -- The last century and the last of four years are a day longer, hence the bounds.
  obtain ⟨century, hcentury⟩ : ∃ century, century = min (day / 36524) 3 := ⟨_, rfl⟩
  obtain ⟨four, hfour⟩ : ∃ four, four = (day - 36524 * century) / 1461 := ⟨_, rfl⟩
  obtain ⟨year, hyear⟩ : ∃ year, year = min ((day - 36524 * century - 1461 * four) / 365) 3 :=
    ⟨_, rfl⟩
  refine ⟨century, four, year, day - 36524 * century - 1461 * four - 365 * year, ?_⟩
  omega

/-- The formula of `ofDays` for the year takes away the leap days that lie behind. -/
theorem yearOfCycle_eq {day century four year rest : Nat} (hcentury : century < 4)
    (hfour : four < 25) (hyear : year < 4)
    (hrest : rest < 365 ∨ rest = 365 ∧ year = 3 ∧ (four < 24 ∨ century = 3))
    (hday : day = 36524 * century + 1461 * four + 365 * year + rest) :
    (day - day / 1460 + day / 36524 - day / 146096) / 365 = 100 * century + 4 * four + year := by
  have hwithin : 1461 * four + 365 * year + rest ≤ 36524 := by omega
  have hfours : day / 1460 = 25 * century + four
      + (24 * century + four + 365 * year + rest) / 1460 := by omega
  have hcenturies : day / 36524 = day / 146096 + century := by
    by_cases hlast : day < 146096
    · have hend : 1461 * four + 365 * year + rest < 36524 := by omega
      omega
    · omega
  have hone : (24 * century + four + 365 * year + rest) / 1460 ≤ 1 := by omega
  omega

/-- In `daysBeforeYear` the leap days of a cycle come with its fours of years, without those of the
centuries, but with those of the cycles. -/
theorem daysBeforeYear_cycle {cycle : Int} {century four year : Nat} (hcentury : century < 4)
    (hfour : four < 25) (hyear : year < 4) :
    daysBeforeYear ((100 * century + 4 * four + year : Nat) + cycle * 400 + 1)
      = 146097 * cycle + (36524 * century + 1461 * four + 365 * year) - 719162 := by
  obtain ⟨before, hbefore⟩ :
      ∃ before, before = ((100 * century + 4 * four + year : Nat) : Int) + cycle * 400 := ⟨_, rfl⟩
  have hfours : before / 4 = 100 * cycle + 25 * century + four := by omega
  have hcenturies : before / 100 = 4 * cycle + century := by omega
  have hcycles : before / 400 = cycle := by omega
  rw [← hbefore]
  unfold daysBeforeYear
  rw [Int.add_sub_cancel, hfours, hcenturies, hcycles]
  omega

/-- The date `rest` days after the first of March of the `year`. -/
def fromMarch (year : Int) (rest : Nat) : Date :=
  let month := (5 * rest + 2) / 153
  let day := rest - (153 * month + 2) / 5 + 1
  if month < 10 then ⟨year, month + 3, day⟩ else ⟨year + 1, month - 9, day⟩

/-- Every day belongs to a year that begins in March, of 365 days, or of 366 if the leap day at its
end is one; `ofDays` is `fromMarch` of this year. -/
theorem exists_marchYear (days : Int) :
    ∃ (year : Int) (rest : Nat), (rest < 365 ∨ rest = 365 ∧ isLeap (year + 1)) ∧
      days = daysBeforeYear (year + 1) - 306 + rest ∧ ofDays days = fromMarch year rest := by
  obtain ⟨cycle, hcycle⟩ : ∃ cycle, cycle = (days + 719468) / 146097 := ⟨_, rfl⟩
  obtain ⟨day, hday⟩ : ∃ day, day = ((days + 719468) % 146097).toNat := ⟨_, rfl⟩
  have hlt : day < 146097 := by omega
  obtain ⟨century, four, year, rest, hcentury, hfour, hyear, hrest, hparts⟩ :=
    exists_yearOfCycle hlt
  refine ⟨(100 * century + 4 * four + year : Nat) + cycle * 400, rest, ?_, ?_, ?_⟩
  · refine hrest.imp_right fun ⟨hend, hlast, hleap⟩ => ⟨hend, ?_⟩
    simp only [isLeap, decide_eq_true_eq]
    omega
  · rw [daysBeforeYear_cycle hcentury hfour hyear]
    omega
  · have hfours : (100 * century + 4 * four + year) / 4 = 25 * century + four := by omega
    have hcenturies : (100 * century + 4 * four + year) / 100 = century := by omega
    have hbehind : day - (365 * (100 * century + 4 * four + year)
        + (100 * century + 4 * four + year) / 4 - (100 * century + 4 * four + year) / 100)
        = rest := by
      rw [hfours, hcenturies]
      omega
    have hformula := yearOfCycle_eq hcentury hfour hyear hrest hparts
    simp only [ofDays, ← hcycle, ← hday, hformula, hbehind]
    rfl

/-- From March to December the months begin where the formula `(153 * month + 2) / 5` has them. -/
theorem months_fromMarch (year : Int) {month : Nat} (h : month < 10) :
    (daysBeforeMonth year (month + 3) : Int)
        = daysBeforeYear (year + 1) - daysBeforeYear year - 306 + (153 * month + 2) / 5 ∧
      (153 * (month + 1) + 2) / 5 = (153 * month + 2) / 5 + daysInMonth year (month + 3) := by
  rw [daysBeforeYear_succ]
  unfold daysBeforeMonth daysInMonth
  interval_cases month <;> cases isLeap year <;> simp [commonDaysBeforeMonth]

/-- The dates `fromMarch` of a year are `Valid` and count its days. -/
theorem fromMarch_spec {year : Int} {rest : Nat}
    (hrest : rest < 365 ∨ rest = 365 ∧ isLeap (year + 1)) :
    (fromMarch year rest).Valid ∧
      (fromMarch year rest).toDays = daysBeforeYear (year + 1) - 306 + rest := by
  obtain ⟨month, hmonth⟩ : ∃ month, month = (5 * rest + 2) / 153 := ⟨_, rfl⟩
  unfold fromMarch
  simp only [← hmonth]
  split
  next hsame =>
    obtain ⟨hbefore, hlength⟩ := months_fromMarch year hsame
    refine ⟨⟨Nat.le_add_left 1 _, by dsimp only; omega, Nat.le_add_left 1 _, ?_⟩, ?_⟩
    · dsimp only
      omega
    · simp only [toDays, hbefore]
      omega
  next hover =>
    -- January and February are of the next year, and the leap day is the last of all.
    have hlast : month = 10 ∨ month = 11 := by omega
    rcases hlast with rfl | rfl
    · refine ⟨⟨Nat.le_refl 1, Nat.le_add_left 1 11, Nat.le_add_left 1 _, ?_⟩, ?_⟩
      · simp only [daysInMonth]
        omega
      · simp only [toDays, Nat.reduceSub, daysBeforeMonth_january]
        omega
    · refine ⟨⟨Nat.le_add_left 1 1, Nat.le_add_left 2 10, Nat.le_add_left 1 _, ?_⟩, ?_⟩
      · simp only [daysInMonth]
        rcases hrest with hrest | ⟨hrest, hleap⟩
        · split <;> omega
        · rw [if_pos hleap]
          omega
      · simp only [toDays, Nat.reduceSub, daysBeforeMonth_february]
        omega

theorem valid_ofDays (days : Int) : (ofDays days).Valid := by
  obtain ⟨year, rest, hrest, -, hdate⟩ := exists_marchYear days
  rw [hdate]
  exact (fromMarch_spec hrest).1

theorem toDays_ofDays (days : Int) : (ofDays days).toDays = days := by
  obtain ⟨year, rest, hrest, hdays, hdate⟩ := exists_marchYear days
  rw [hdate, hdays]
  exact (fromMarch_spec hrest).2

theorem ofDays_toDays {date : Date} (h : date.Valid) : ofDays date.toDays = date :=
  eq_of_toDays_eq (valid_ofDays _) h (toDays_ofDays _)

theorem ofDays_succ (days : Int) : ofDays (days + 1) = (ofDays days).next := by
  have hnext : (ofDays days).next.toDays = days + 1 := by
    rw [toDays_next (valid_ofDays days), toDays_ofDays]
  rw [← hnext, ofDays_toDays (valid_next (valid_ofDays days))]

/-- Every day has a date: `ofDays` is found by going on or back from `epoch`. -/
theorem isDay_ofDays (days : Int) : (ofDays days).IsDay days := by
  induction days with
  | zero => exact .epoch
  | succ days ih =>
    rw [ofDays_succ]
    exact ih.next
  | pred days ih =>
    refine .previous (valid_ofDays _) ?_
    rw [← ofDays_succ, Int.sub_add_cancel]
    exact ih

/-- The last year of a century has a leap day if it ends a cycle. -/
example : ofDays 11016 = ⟨2000, 2, 29⟩ := by decide

/-- The day of a date is the one that `toDays` counts, and only dates that are `Valid` have one. -/
theorem isDay_iff {date : Date} {days : Int} :
    date.IsDay days ↔ date.Valid ∧ date.toDays = days := by
  constructor
  · intro h
    induction h with
    | epoch => exact ⟨⟨by decide, by decide, by decide, by decide⟩, rfl⟩
    | next _ ih => exact ⟨valid_next ih.1, by rw [toDays_next ih.1, ih.2]⟩
    | previous hvalid _ ih => exact ⟨hvalid, by have := toDays_next hvalid; omega⟩
  · rintro ⟨hvalid, rfl⟩
    have h := isDay_ofDays date.toDays
    rwa [ofDays_toDays hvalid] at h

/-! ## Days of the year and of the week -/

theorem isDay_first (year : Int) : IsDay ⟨year, 1, 1⟩ (daysBeforeYear year) :=
  isDay_iff.mpr ⟨valid_january year (by decide) (by decide), toDays_first year⟩

/-- A day lies in the year of its date `ofDays`. -/
theorem mem_year_ofDays (days : Int) :
    daysBeforeYear (ofDays days).year ≤ days ∧
      days < daysBeforeYear ((ofDays days).year + 1) := by
  have hmem := toDays_mem_year (valid_ofDays days)
  rwa [toDays_ofDays] at hmem

theorem dayOfYear_eq (days : Int) :
    (dayOfYear days : Int) = days - daysBeforeYear (ofDays days).year := by
  have hmem := mem_year_ofDays days
  unfold dayOfYear
  omega

theorem dayOfYear_lt (days : Int) : dayOfYear days < 366 := by
  have hmem := mem_year_ofDays days
  have heq := dayOfYear_eq days
  rw [daysBeforeYear_succ] at hmem
  split at hmem <;> omega

/-- Its year began `dayOfYear` days before a day. -/
theorem isDay_sub_dayOfYear (days : Int) :
    IsDay ⟨(ofDays days).year, 1, 1⟩ (days - dayOfYear days) := by
  rw [dayOfYear_eq, Int.sub_sub_self]
  exact isDay_first _

/-- The day has the `number` from one for Monday to seven. The first of January 1970 was a
Thursday. -/
def IsWeekday (number : Nat) (days : Int) : Prop :=
  1 ≤ number ∧ number ≤ 7 ∧ (number : Int) % 7 = (days + 4) % 7

theorem isWeekday_weekday (days : Int) : IsWeekday (weekday days + 1) days := by
  unfold IsWeekday weekday
  omega

/-- The `monday` with which the weeks of a year begin: the fourth of January lies in the first of
them. -/
def IsFirstMonday (year monday : Int) : Prop :=
  IsWeekday 1 monday ∧ ∃ fourth, IsDay ⟨year, 1, 4⟩ fourth ∧ monday ≤ fourth ∧ fourth < monday + 7

/-- The day lies in a `week` of a year, counted from one, by the rules of ISO 8601: the weeks of a
year begin with its first Monday and end before that of the next year, which is `following`. -/
def InWeek (days : Int) (week : Nat) : Prop :=
  ∃ year first following, IsFirstMonday year first ∧ IsFirstMonday (year + 1) following ∧
    1 ≤ week ∧ first + 7 * (week - 1) ≤ days ∧ days < first + 7 * week ∧ days < following

theorem isFirstMonday (year : Int) :
    IsFirstMonday year (daysBeforeYear year + 3 - (daysBeforeYear year + 6) % 7) := by
  refine ⟨by unfold IsWeekday; omega, daysBeforeYear year + 3, ?_, by omega, by omega⟩
  refine isDay_iff.mpr ⟨valid_january year (by decide) (by decide), ?_⟩
  simp [toDays]

/-- The number `week` of a day satisfies `InWeek`: the Thursday of its week lies in the year whose
week it is. -/
theorem inWeek_week (days : Int) : InWeek days (week days) := by
  obtain ⟨thursday, hthursday⟩ : ∃ thursday, thursday = days - weekday days + 3 := ⟨_, rfl⟩
  have hmem := mem_year_ofDays thursday
  have hday := dayOfYear_eq thursday
  have hweek : week days = dayOfYear thursday / 7 + 1 := by rw [hthursday]; rfl
  refine ⟨(ofDays thursday).year, _, _, isFirstMonday _, isFirstMonday _, ?_⟩
  unfold weekday at hthursday
  omega

end Stencil.Date
