import Stencil.Decimal.Binary64
import Stencil.Text.Numeral

/-!
# The civil calendar

Dates of the Gregorian calendar, carried on without end before and after the
years it was in use, and the moments of a day in UTC. Days are counted from the
first of January 1970, moments in seconds from its midnight; both counts may be
negative. Years are counted with a year zero.

A count of days becomes a date through the cycle of four hundred years, after
which the calendar repeats, with the leap day at the end of a year that begins
in March.
-/

namespace Stencil

/-- A day of the civil calendar. The `month` and the `day` are counted from one. -/
structure Date where
  year : Int
  month : Nat
  day : Nat
  deriving DecidableEq

namespace Date

/-- The `year` has a twenty-ninth of February. -/
def isLeap (year : Int) : Bool :=
  year % 4 = 0 ∧ (year % 100 ≠ 0 ∨ year % 400 = 0)

/-- The number of days from the first of January 1970 to that of the `year`. -/
def daysBeforeYear (year : Int) : Int :=
  365 * (year - 1) + (year - 1) / 4 - (year - 1) / 100 + (year - 1) / 400 - 719162

/-- The number of days in a common year before each month. -/
def commonDaysBeforeMonth : Nat → Nat
  | 2 => 31
  | 3 => 59
  | 4 => 90
  | 5 => 120
  | 6 => 151
  | 7 => 181
  | 8 => 212
  | 9 => 243
  | 10 => 273
  | 11 => 304
  | 12 => 334
  | _ => 0

/-- The number of days in the `year` before the `month`: one more than `commonDaysBeforeMonth` from
March on in a leap year. -/
def daysBeforeMonth (year : Int) (month : Nat) : Nat :=
  commonDaysBeforeMonth month + if isLeap year ∧ 2 < month then 1 else 0

/-- The count of a date's day, from `daysBeforeYear` and `daysBeforeMonth`; `⟨1970, 1, 1⟩` is
zero. -/
def toDays (date : Date) : Int :=
  daysBeforeYear date.year + daysBeforeMonth date.year date.month + (date.day - 1 : Nat)

/-- The date of a day, the inverse of `toDays`. Days are counted from March of the year 0 in cycles
of 400 years, so that a leap day is the last one of its year. -/
def ofDays (days : Int) : Date :=
  let shifted := days + 719468
  let cycle := shifted / 146097
  let dayOfCycle := (shifted % 146097).toNat
  let yearOfCycle :=
    (dayOfCycle - dayOfCycle / 1460 + dayOfCycle / 36524 - dayOfCycle / 146096) / 365
  let dayFromMarch := dayOfCycle - (365 * yearOfCycle + yearOfCycle / 4 - yearOfCycle / 100)
  let monthFromMarch := (5 * dayFromMarch + 2) / 153
  let day := dayFromMarch - (153 * monthFromMarch + 2) / 5 + 1
  if monthFromMarch < 10 then
    ⟨yearOfCycle + cycle * 400, monthFromMarch + 3, day⟩
  else
    ⟨yearOfCycle + cycle * 400 + 1, monthFromMarch - 9, day⟩

/-- The number of days of its year that lie before a day: what is left of it after
`daysBeforeYear`. -/
def dayOfYear (days : Int) : Nat :=
  (days - daysBeforeYear (ofDays days).year).toNat

/-- The weekday of a day, from zero for Monday to six for Sunday. -/
def weekday (days : Int) : Nat :=
  ((days + 3) % 7).toNat

/-- The week of a day. Weeks begin on Monday, which is why `weekday` is taken off, and belong to the
year in which their Thursday lies; the first one of a year holds its first Thursday. -/
def week (days : Int) : Nat :=
  dayOfYear (days - weekday days + 3) / 7 + 1

/-- The English name of a month. -/
def monthName : Nat → Text
  | 1 => "January".toList
  | 2 => "February".toList
  | 3 => "March".toList
  | 4 => "April".toList
  | 5 => "May".toList
  | 6 => "June".toList
  | 7 => "July".toList
  | 8 => "August".toList
  | 9 => "September".toList
  | 10 => "October".toList
  | 11 => "November".toList
  | _ => "December".toList

/-- The English name of a weekday, Monday being zero. -/
def weekdayName : Nat → Text
  | 0 => "Monday".toList
  | 1 => "Tuesday".toList
  | 2 => "Wednesday".toList
  | 3 => "Thursday".toList
  | 4 => "Friday".toList
  | 5 => "Saturday".toList
  | _ => "Sunday".toList

/-- The suffix that makes an English ordinal of a day of the month. -/
def ordinalSuffix (day : Nat) : Text :=
  if 11 ≤ day % 100 ∧ day % 100 ≤ 13 then ['t', 'h']
  else match day % 10 with
    | 1 => ['s', 't']
    | 2 => ['n', 'd']
    | 3 => ['r', 'd']
    | _ => ['t', 'h']

/-- The first three letters of a name. -/
def abbreviated (name : Text) : Text :=
  name.take 3

/-- A year in at least four digits, with a sign unless it lies between `0` and `9999`. -/
def yearText (year : Int) : Text :=
  let digits := Text.zeroPadded 4 (Text.decimal year.natAbs)
  if year < 0 then '-' :: digits
  else if 9999 < year then '+' :: digits
  else digits

/-- A date in words, such as `March 5, 2024`. -/
def inWords (date : Date) : Text :=
  monthName date.month ++ [' '] ++ Text.decimal date.day ++ [',', ' '] ++ yearText date.year

end Date

/-- A `second` of a day in UTC, the day as its count of `days` from the first of January 1970. -/
structure Moment where
  days : Int
  second : Nat
  deriving DecidableEq

namespace Moment

/-- The moment of a count of seconds from the beginning of 1970, of which a day has `86400`. -/
def ofTimestamp (timestamp : Int) : Moment :=
  ⟨timestamp / 86400, (timestamp % 86400).toNat⟩

/-- The `Date` of a moment. -/
def date (moment : Moment) : Date := Date.ofDays moment.days

/-- The hour of the day. -/
def hour (moment : Moment) : Nat := moment.second / 3600

/-- The minute of the hour. -/
def minute (moment : Moment) : Nat := moment.second / 60 % 60

/-- The second of the minute. -/
def secondOfMinute (moment : Moment) : Nat := moment.second % 60

/-- The hour on a clock with twelve hours, on which `12` stands for zero. -/
def clockHour (moment : Moment) : Nat :=
  if moment.hour % 12 = 0 then 12 else moment.hour % 12

/-- The moment lies in the second half of its day: its `hour` is not below `12`. -/
def isAfternoon (moment : Moment) : Bool := 12 ≤ moment.hour

/-- The beat of the day, a thousandth of it counted from midnight in UTC+1. The second of that day
is divided by `Binary64.ofDecimal? 864 (-1)`, the binary64 number nearest to 86.4, in binary64
arithmetic, and cut to a whole number by `Binary64.floor`. That number lies a little above 86.4, so
a few of the beats that begin on a whole second are counted one second late. -/
def beats (moment : Moment) : Nat :=
  let secondOfDay := (moment.second + 3600) % 86400
  let count := do
    let length ← Decimal.Binary64.ofDecimal? 864 (-1)
    Decimal.Binary64.quotient? secondOfDay length
  (count.map Decimal.Binary64.floor).getD 0

end Moment

end Stencil
