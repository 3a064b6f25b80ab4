import Stencil.Proofs.Calendar.Date
import Stencil.Proofs.Text.Numeral
import Stencil.Time.Tag

/-!
# The time tags tell one moment

Six of the tags, read as numbers, make a date and a time of day; the timestamp is the
count of seconds up to there, and the other tags say again what the six say or something
that follows from the date (`tells_print`). This holds before 1970 and before year zero,
where counts of days and seconds are negative and are divided downwards.

Theorems:
- `tags_tell_moment`: what the tags of a timestamp in range say.
-/

namespace Stencil.Time

open Text

/-! ## Dates with a time of day -/

/-- A `date` with a time of day, as a clock with twenty-four hours shows it. -/
structure CivilTime where
  date : Date
  hour : Nat
  minute : Nat
  second : Nat
  deriving DecidableEq

/-- The date and time is that of the timestamp `stamp`, on the day `days`. -/
structure CivilTime.IsAt (civil : CivilTime) (days stamp : Int) : Prop where
  isDay : civil.date.IsDay days
  hour_lt : civil.hour < 24
  minute_lt : civil.minute < 60
  second_lt : civil.second < 60
  stamp_eq : stamp = ((days * 24 + civil.hour) * 60 + civil.minute) * 60 + civil.second

/-- A date and time `IsAt` one timestamp only. -/
theorem CivilTime.IsAt.unique {civil : CivilTime} {days other stamp later : Int}
    (h : civil.IsAt days stamp) (hlater : civil.IsAt other later) : later = stamp := by
  have hdays : other = days :=
    (Date.isDay_iff.mp hlater.isDay).2.symm.trans (Date.isDay_iff.mp h.isDay).2
  rw [hlater.stamp_eq, h.stamp_eq, hdays]

/-- The date and time of a `moment`. -/
def civilOf (moment : Moment) : CivilTime :=
  ⟨moment.date, moment.hour, moment.minute, moment.secondOfMinute⟩

theorem second_momentOf_lt (stamp : Int) : (momentOf stamp).second < 86400 := by
  unfold momentOf Moment.ofTimestamp
  split <;> dsimp only <;> omega

/-- The hands of a clock go round within a day. -/
theorem clock_lt {moment : Moment} (h : moment.second < 86400) :
    moment.hour < 24 ∧ moment.minute < 60 ∧ moment.secondOfMinute < 60 := by
  simp only [Moment.hour, Moment.minute, Moment.secondOfMinute]
  omega

theorem isAt_civilOf {stamp : Int} (h : isFormattable stamp) :
    (civilOf (momentOf stamp)).IsAt (momentOf stamp).days stamp := by
  obtain ⟨hhour, hminute, hsecond⟩ := clock_lt (second_momentOf_lt stamp)
  have hstamp : stamp = 86400 * (momentOf stamp).days + (momentOf stamp).second := by
    rw [momentOf, if_pos h]
    simp only [Moment.ofTimestamp]
    omega
  refine ⟨Date.isDay_ofDays _, hhour, hminute, hsecond, ?_⟩
  simp only [civilOf, Moment.hour, Moment.minute, Moment.secondOfMinute]
  omega

/-! ## What the tags say -/

/-- The text is the number `n`, below a hundred, in two digits. -/
def IsTwoDigits (text : Text) (n : Nat) : Prop :=
  text.length = 2 ∧ readNatural? 10 text = some n

/-- The months of the year. -/
def monthNames : List String :=
  ["January", "February", "March", "April", "May", "June", "July", "August", "September",
    "October", "November", "December"]

/-- The days of the week. -/
def weekdayNames : List String :=
  ["Monday", "Tuesday", "Wednesday", "Thursday", "Friday", "Saturday", "Sunday"]

/-- What makes an ordinal of a day of the month in English, as in 1st and 22nd. -/
def ordinalEnding (day : Nat) : String :=
  if day ∈ [1, 21, 31] then "st"
  else if day ∈ [2, 22] then "nd"
  else if day ∈ [3, 23] then "rd"
  else "th"

/-- What is `printed` for the tags says, on the day `days`, the date and time `civil`: each of its
numbers, and the others as they follow from it. -/
structure Tells (printed : Tag → Text) (days : Int) (civil : CivilTime) : Prop where
  year : readInteger? 10 (printed .year) = some civil.date.year
  monthNumber : readNatural? 10 (printed .monthNumber) = some civil.date.month
  dayOfMonth : readNatural? 10 (printed .dayOfMonth) = some civil.date.day
  hour24 : readNatural? 10 (printed .hour24) = some civil.hour
  minutes : IsTwoDigits (printed .minutes) civil.minute
  seconds : IsTwoDigits (printed .seconds) civil.second
  monthNumberWithZero : IsTwoDigits (printed .monthNumberWithZero) civil.date.month
  dayOfMonthWithZero : IsTwoDigits (printed .dayOfMonthWithZero) civil.date.day
  hour24WithZero : IsTwoDigits (printed .hour24WithZero) civil.hour
  hour12 : ∃ clock, (1 ≤ clock ∧ clock ≤ 12 ∧ clock % 12 = civil.hour % 12) ∧
    readNatural? 10 (printed .hour12) = some clock ∧ IsTwoDigits (printed .hour12WithZero) clock
  amPm : printed .amPm = (if civil.hour < 12 then "am" else "pm").toList
  capitalAmPm : printed .capitalAmPm = (if civil.hour < 12 then "AM" else "PM").toList
  shortYear : ∃ short : Nat, (short : Int) = civil.date.year % 100 ∧
    IsTwoDigits (printed .shortYear) short
  dayOfYear : ∃ before : Nat, readNatural? 10 (printed .dayOfYear) = some before ∧
    Date.IsDay ⟨civil.date.year, 1, 1⟩ (days - before)
  dayOfWeekNumber : ∃ number, readNatural? 10 (printed .dayOfWeekNumber) = some number ∧
    Date.IsWeekday number days ∧
    (weekdayNames[number - 1]?).map String.toList = some (printed .dayOfWeek)
  month : (monthNames[civil.date.month - 1]?).map String.toList = some (printed .month)
  shortMonth : printed .shortMonth = (printed .month).take 3
  shortDayOfWeek : printed .shortDayOfWeek = (printed .dayOfWeek).take 3
  weekOfYear : ∃ week, IsTwoDigits (printed .weekOfYear) week ∧ Date.InWeek days week
  dayOfMonthSuffix : printed .dayOfMonthSuffix = (ordinalEnding civil.date.day).toList

/-- The six tags that make the date and time. -/
def civilTags : List Tag :=
  [.year, .monthNumber, .dayOfMonth, .hour24, .minutes, .seconds]

/-- The six `civilTags` leave no choice of the date and time that they tell. -/
theorem Tells.unique {printed other : Tag → Text} {days later : Int} {civil civil' : CivilTime}
    (h : Tells printed days civil) (h' : Tells other later civil')
    (hsame : ∀ tag ∈ civilTags, other tag = printed tag) : civil' = civil := by
  have hread : ∀ {α : Type} (read : Text → Option α) {tag : Tag} {value value' : α},
      tag ∈ civilTags → read (printed tag) = some value → read (other tag) = some value' →
      value' = value := by
    intro α read tag value value' htag hvalue hvalue'
    rw [hsame tag htag, hvalue] at hvalue'
    exact (Option.some.inj hvalue').symm
  have hyear := hread _ (by decide) h.year h'.year
  have hmonth := hread _ (by decide) h.monthNumber h'.monthNumber
  have hday := hread _ (by decide) h.dayOfMonth h'.dayOfMonth
  have hhour := hread _ (by decide) h.hour24 h'.hour24
  have hminute := hread _ (by decide) h.minutes.2 h'.minutes.2
  have hsecond := hread _ (by decide) h.seconds.2 h'.seconds.2
  obtain ⟨⟨_, _, _⟩, _, _, _⟩ := civil
  obtain ⟨⟨_, _, _⟩, _, _, _⟩ := civil'
  simp only at hyear hmonth hday hhour hminute hsecond
  rw [hyear, hmonth, hday, hhour, hminute, hsecond]

/-! ## What is printed -/

theorem isTwoDigits_twoDigits {n : Nat} (h : n < 100) : IsTwoDigits (Tag.twoDigits n) n :=
  ⟨length_zeroPadded_decimal (by decide) h, readNatural?_zeroPadded 2 n⟩

theorem readInteger?_yearText (year : Int) : readInteger? 10 (Date.yearText year) = some year := by
  have hdigits := readNatural?_zeroPadded 4 year.natAbs
  unfold Date.yearText
  split
  next hneg =>
    rw [readInteger?_neg hdigits]
    congr 1
    omega
  next hpos =>
    have habs : (year.natAbs : Int) = year := by omega
    split
    next => rw [readInteger?_plus hdigits, habs]
    next => rw [readInteger?_of_readNatural? hdigits, habs]

theorem week_lt (days : Int) : Date.week days < 100 := by
  have hday := Date.dayOfYear_lt (days - Date.weekday days + 3)
  unfold Date.week
  omega

theorem monthNames_monthName {month : Nat} (hpos : 1 ≤ month) (hle : month ≤ 12) :
    (monthNames[month - 1]?).map String.toList = some (Date.monthName month) := by
  interval_cases month <;> rfl

theorem weekdayNames_weekdayName {weekday : Nat} (h : weekday < 7) :
    (weekdayNames[weekday]?).map String.toList = some (Date.weekdayName weekday) := by
  interval_cases weekday <;> rfl

theorem ordinalSuffix_eq {day : Nat} (h : day ≤ 31) :
    Date.ordinalSuffix day = (ordinalEnding day).toList := by
  interval_cases day <;> rfl

/-- On `clockHour` twelve follows eleven on both halves of the clock, and stands where zero
would. -/
theorem clockHour_spec (moment : Moment) :
    1 ≤ moment.clockHour ∧ moment.clockHour ≤ 12 ∧ moment.clockHour % 12 = moment.hour % 12 := by
  unfold Moment.clockHour
  split <;> omega

theorem half_eq (moment : Moment) (morning afternoon : String) :
    (if moment.isAfternoon then afternoon.toList else morning.toList)
      = (if moment.hour < 12 then morning else afternoon).toList := by
  unfold Moment.isAfternoon
  by_cases h : moment.hour < 12
  · simp [h]
  · simp [h, Nat.le_of_not_lt h]

theorem tells_print (stamp now : Int) :
    Tells (fun tag => tag.print stamp now) (momentOf stamp).days (civilOf (momentOf stamp)) := by
  have hsecond := second_momentOf_lt stamp
  simp only [Tag.print]
  generalize momentOf stamp = moment at hsecond ⊢
  obtain ⟨hhour, hminute, hsecond⟩ := clock_lt hsecond
  have hvalid : moment.date.Valid := Date.valid_ofDays moment.days
  have hmonth : moment.date.month ≤ 12 := hvalid.month_le
  have hday : moment.date.day ≤ 31 := hvalid.day_le.trans (Date.daysInMonth_le _ _)
  have hclock := clockHour_spec moment
  have hweekday : Date.weekday moment.days < 7 := by unfold Date.weekday; omega
  exact {
    year := readInteger?_yearText _
    monthNumber := readNatural?_decimal _
    dayOfMonth := readNatural?_decimal _
    hour24 := readNatural?_decimal _
    minutes := isTwoDigits_twoDigits (hminute.trans (by decide))
    seconds := isTwoDigits_twoDigits (hsecond.trans (by decide))
    monthNumberWithZero := isTwoDigits_twoDigits (by omega)
    dayOfMonthWithZero := isTwoDigits_twoDigits (by omega)
    hour24WithZero := isTwoDigits_twoDigits (hhour.trans (by decide))
    hour12 := ⟨_, hclock, readNatural?_decimal _, isTwoDigits_twoDigits (by omega)⟩
    amPm := half_eq moment "am" "pm"
    capitalAmPm := half_eq moment "AM" "PM"
    shortYear := ⟨(moment.date.year % 100).toNat, by dsimp only [civilOf]; omega,
      isTwoDigits_twoDigits (by omega)⟩
    dayOfYear := ⟨_, readNatural?_decimal _, Date.isDay_sub_dayOfYear _⟩
    dayOfWeekNumber := ⟨_, readNatural?_decimal _, Date.isWeekday_weekday _,
      weekdayNames_weekdayName hweekday⟩
    month := monthNames_monthName hvalid.month_pos hvalid.month_le
    shortMonth := rfl
    shortDayOfWeek := rfl
    weekOfYear := ⟨_, isTwoDigits_twoDigits (week_lt _), Date.inWeek_week _⟩
    dayOfMonthSuffix := ordinalSuffix_eq hday }

theorem ofName?_name (tag : Tag) : Tag.ofName? tag.name = some tag := by
  cases tag <;> decide

theorem printNamed_name (stamp now : Int) (tag : Tag) :
    printNamed stamp now tag.name = .ok (tag.print stamp now) := by
  rw [printNamed, ofName?_name]

/-- To look up a name among the `fields` of all tags is to look for its tag by `Tag.ofName?`. -/
theorem get?_fields (stamp now : Int) (name : Text) :
    Keyed.get? name (fields stamp now)
      = (Tag.ofName? name).map fun tag => .text (tag.print stamp now) := by
  unfold fields Tag.ofName?
  induction Tag.all with
  | nil => rfl
  | cons tag tags ih =>
    by_cases h : tag.name = name
    · rw [List.find?_cons_of_pos (by simpa using h)]
      simp [Keyed.get?, h]
    · rw [List.find?_cons_of_neg (by simpa using h), ← ih]
      simp [Keyed.get?, h]

/-- **The time tags of a timestamp tell one moment.** Each tag is `printed` the same asked for by
name (`printNamed`) or among all `fields`, and the timestamp tag is `stamp` itself. There is a date
and time `civil` that `IsAt` the timestamp and that the tags tell, as `Tells` says number by number.
The last part: no `other` timestamp in range has the same six `civilTags`. -/
theorem tags_tell_moment {stamp : Int} (h : isFormattable stamp) (now : Int) :
    ∃ printed : Tag → Text,
      (∀ tag : Tag, printNamed stamp now tag.name = .ok (printed tag) ∧
        Keyed.get? tag.name (fields stamp now) = some (.text (printed tag))) ∧
      readInteger? 10 (printed .timestamp) = some stamp ∧
      (∃ days civil, CivilTime.IsAt civil days stamp ∧ Tells printed days civil) ∧
      ∀ other later : Int, isFormattable other →
        (∀ tag ∈ civilTags, printNamed other later tag.name = printNamed stamp now tag.name) →
        other = stamp := by
  refine ⟨fun tag => tag.print stamp now, fun tag => ⟨printNamed_name _ _ _, ?_⟩,
    readInteger?_signedDecimal stamp, ⟨_, _, isAt_civilOf h, tells_print stamp now⟩, ?_⟩
  · rw [get?_fields, ofName?_name]
    rfl
  intro other later hother hsame
  have hcivil := Tells.unique (tells_print stamp now) (tells_print other later) fun tag htag => by
    have hprinted := hsame tag htag
    rw [printNamed_name, printNamed_name] at hprinted
    exact Except.ok.inj hprinted
  have hat := isAt_civilOf hother
  rw [hcivil] at hat
  exact (isAt_civilOf h).unique hat

/-- The first second of a year that begins on a Friday, in a week of the year before. -/
theorem tags_tell_moment_friday :
    isFormattable (-8334569692800) ∧
      ∃ (printed : Tag → Text) (days : Int) (civil : CivilTime),
        CivilTime.IsAt civil days (-8334569692800) ∧ Tells printed days civil ∧
        [Tag.year, .dayOfWeek, .dayOfYear, .weekOfYear].map printed
          = ["-262142", "Friday", "0", "53"].map String.toList := by
  have h : isFormattable (-8334569692800) := by decide
  obtain ⟨printed, hprinted, -, ⟨days, civil, hat, htells⟩, -⟩ := tags_tell_moment h 0
  have hprint : printed = fun tag => tag.print (-8334569692800) 0 := by
    funext tag
    have hnamed := (hprinted tag).1
    rw [printNamed_name] at hnamed
    exact (Except.ok.inj hnamed).symm
  refine ⟨h, printed, days, civil, hat, htells, ?_⟩
  rw [hprint]
  decide +kernel

end Stencil.Time
