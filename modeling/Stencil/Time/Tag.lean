import Stencil.Error
import Stencil.Time.Age
import Stencil.Value.Basic

/-!
# Time tags — the variables that print a moment

The table of variables through which a template prints the time of a post. Each
tag has a name and prints one side of a moment in UTC: a part of its date or of
its time of day, its timestamp, or how long ago it was.
-/

namespace Stencil.Time

/-- A variable that prints a moment, with its `name` and what it does `print`. -/
inductive Tag where
  | dayOfMonth
  | dayOfMonthWithZero
  | dayOfWeek
  | shortDayOfWeek
  | dayOfWeekNumber
  | dayOfMonthSuffix
  | dayOfYear
  | weekOfYear
  | month
  | shortMonth
  | monthNumber
  | monthNumberWithZero
  | year
  | shortYear
  | amPm
  | capitalAmPm
  | hour12
  | hour24
  | hour12WithZero
  | hour24WithZero
  | minutes
  | seconds
  | beats
  | timestamp
  | timeAgo
  deriving DecidableEq

namespace Tag

/-- The tags in the order of the table; `fields` lists them so. -/
def all : List Tag :=
  [.dayOfMonth, .dayOfMonthWithZero, .dayOfWeek, .shortDayOfWeek, .dayOfWeekNumber,
    .dayOfMonthSuffix, .dayOfYear, .weekOfYear, .month, .shortMonth, .monthNumber,
    .monthNumberWithZero, .year, .shortYear, .amPm, .capitalAmPm, .hour12, .hour24,
    .hour12WithZero, .hour24WithZero, .minutes, .seconds, .beats, .timestamp, .timeAgo]

/-- The name of the variable. -/
def name : Tag → Text
  | .dayOfMonth => "DayOfMonth".toList
  | .dayOfMonthWithZero => "DayOfMonthWithZero".toList
  | .dayOfWeek => "DayOfWeek".toList
  | .shortDayOfWeek => "ShortDayOfWeek".toList
  | .dayOfWeekNumber => "DayOfWeekNumber".toList
  | .dayOfMonthSuffix => "DayOfMonthSuffix".toList
  | .dayOfYear => "DayOfYear".toList
  | .weekOfYear => "WeekOfYear".toList
  | .month => "Month".toList
  | .shortMonth => "ShortMonth".toList
  | .monthNumber => "MonthNumber".toList
  | .monthNumberWithZero => "MonthNumberWithZero".toList
  | .year => "Year".toList
  | .shortYear => "ShortYear".toList
  | .amPm => "AmPm".toList
  | .capitalAmPm => "CapitalAmPm".toList
  | .hour12 => "12Hour".toList
  | .hour24 => "24Hour".toList
  | .hour12WithZero => "12HourWithZero".toList
  | .hour24WithZero => "24HourWithZero".toList
  | .minutes => "Minutes".toList
  | .seconds => "Seconds".toList
  | .beats => "Beats".toList
  | .timestamp => "Timestamp".toList
  | .timeAgo => "TimeAgo".toList

/-- The tag of a name, the one among `all` that has it. -/
def ofName? (wanted : Text) : Option Tag :=
  all.find? fun tag => tag.name == wanted

/-- A number in at least two digits. -/
def twoDigits (n : Nat) : Text :=
  Text.zeroPadded 2 (Text.decimal n)

/-- What a tag prints for the timestamp `stamp` when the clock shows `now`. -/
def print (stamp now : Int) (tag : Tag) : Text :=
  let moment := momentOf stamp
  let date := moment.date
  match tag with
  | .dayOfMonth => Text.decimal date.day
  | .dayOfMonthWithZero => twoDigits date.day
  | .dayOfWeek => Date.weekdayName (Date.weekday moment.days)
  | .shortDayOfWeek => Date.abbreviated (Date.weekdayName (Date.weekday moment.days))
  | .dayOfWeekNumber => Text.decimal (Date.weekday moment.days + 1)
  | .dayOfMonthSuffix => Date.ordinalSuffix date.day
  | .dayOfYear => Text.decimal (Date.dayOfYear moment.days)
  | .weekOfYear => twoDigits (Date.week moment.days)
  | .month => Date.monthName date.month
  | .shortMonth => Date.abbreviated (Date.monthName date.month)
  | .monthNumber => Text.decimal date.month
  | .monthNumberWithZero => twoDigits date.month
  | .year => Date.yearText date.year
  | .shortYear => twoDigits (date.year % 100).toNat
  | .amPm => if moment.isAfternoon then ['p', 'm'] else ['a', 'm']
  | .capitalAmPm => if moment.isAfternoon then ['P', 'M'] else ['A', 'M']
  | .hour12 => Text.decimal moment.clockHour
  | .hour24 => Text.decimal moment.hour
  | .hour12WithZero => twoDigits moment.clockHour
  | .hour24WithZero => twoDigits moment.hour
  | .minutes => twoDigits moment.minute
  | .seconds => twoDigits moment.secondOfMinute
  | .beats => Text.zeroPadded 3 (Text.decimal moment.beats)
  | .timestamp => Text.signedDecimal stamp
  | .timeAgo => relative stamp now

end Tag

/-- What the tag of a `name` prints for a timestamp when the clock shows `now`; `unknownTimeTag` if
there is no such tag. -/
def printNamed (stamp now : Int) (name : Text) : Except Error Text :=
  match Tag.ofName? name with
  | none => .error (.unknownTimeTag name)
  | some tag => .ok (tag.print stamp now)

/-- The variables of a timestamp: for each of `Tag.all` its name and what it prints. -/
def fields (stamp now : Int) : Fields :=
  Tag.all.map fun tag => (tag.name, .text (tag.print stamp now))

end Stencil.Time
