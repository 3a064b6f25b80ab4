import Stencil.Calendar

/-!
# Ages — how long ago something was

An age is told in the largest unit that says enough: seconds below one minute,
then minutes, hours, days and weeks, each rounded to the nearest from the one
before, a half going up. What is four weeks old or older is told by its date.

The rounding is done in binary64 arithmetic. A binary64 number that is rounded
to a whole number gives a binary64 number again, so the counts from one step to
the next are kept as natural numbers.
-/

namespace Stencil.Time

/-- The moment is in the range of dates that can be told: the years from `-262143` to `262142`. -/
def isFormattable (timestamp : Int) : Bool :=
  let year := (Moment.ofTimestamp timestamp).date.year
  decide (-262143 ≤ year ∧ year ≤ 262142)

/-- The moment of a timestamp, or the first moment of 1970 if it is not `isFormattable`. -/
def momentOf (timestamp : Int) : Moment :=
  if isFormattable timestamp then Moment.ofTimestamp timestamp else Moment.ofTimestamp 0

/-- The units in which an age is counted. -/
inductive AgeUnit where
  | second
  | minute
  | hour
  | day
  | week
  deriving DecidableEq

/-- The English name of one of a unit, before its `pluralEnding`. -/
def AgeUnit.name : AgeUnit → Text
  | .second => "second".toList
  | .minute => "minute".toList
  | .hour => "hour".toList
  | .day => "day".toList
  | .week => "week".toList

/-- How long ago something was: a count of a unit (`ago`), or too long to be counted (`longAgo`). -/
inductive Age where
  | ago (count : Int) (unit : AgeUnit)
  | longAgo
  deriving DecidableEq

/-- The steps from a unit to a larger one: the larger unit, how many of the
smaller one it takes, and the count from which the next unit is used. -/
def steps : List (AgeUnit × Nat × Nat) :=
  [(.minute, 60, 60), (.hour, 60, 24), (.day, 24, 7), (.week, 7, 4)]

/-- The quotient `count / size` in binary64 arithmetic, rounded to a whole number. -/
def binaryQuotient (count size : Nat) : Nat :=
  ((Decimal.Binary64.nearest? count size).map Decimal.Binary64.round).getD 0

/-- The age in the first unit whose count stays below its `limit`, from a `count` of the unit
before, where `divide` divides by the `size` of a unit and rounds. -/
def ageFrom (divide : Nat → Nat → Nat) : List (AgeUnit × Nat × Nat) → Nat → Age
  | [], _ => .longAgo
  | (unit, size, limit) :: rest, count =>
    let rounded := divide count size
    if rounded < limit then .ago rounded unit else ageFrom divide rest rounded

/-- The number of seconds between two timestamps, kept in the range of 64 bits. -/
def elapsed (timestamp now : Int) : Int :=
  max (-9223372036854775808) (min 9223372036854775807 (now - timestamp))

/-- How long before `now` a timestamp was: the seconds `elapsed` below one minute, and from there on
what `ageFrom` gives along the `steps`. -/
def age (timestamp now : Int) : Age :=
  let seconds := elapsed timestamp now
  if seconds < 60 then .ago seconds .second
  else ageFrom binaryQuotient steps (binaryQuotient seconds.toNat 1)

/-- The plural ending that goes with a `count`: none for `1`, and `s` for all others. -/
def pluralEnding (count : Int) : Text :=
  if count = 1 then [] else ['s']

/-- How long before `now` a timestamp was, its `age` in words. -/
def relative (timestamp now : Int) : Text :=
  match age timestamp now with
  | .ago count unit =>
    Text.signedDecimal count ++ [' '] ++ unit.name ++ pluralEnding count ++ " ago".toList
  | .longAgo => "on ".toList ++ (momentOf timestamp).date.inWords

end Stencil.Time
