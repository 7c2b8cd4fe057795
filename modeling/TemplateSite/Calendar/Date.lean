/-!
# Dates of the Gregorian calendar

A date is a year, a month and a day, the calendar being extended to all years. Days are counted from
the first of January 1970. Years start in March for the count, so that the leap day comes last.
-/
namespace TemplateSite.Calendar

/-- A year, a month from 1 and a day from 1. -/
structure Date where
  year : Int
  month : Nat
  day : Nat
deriving DecidableEq, Repr, Inhabited

def isLeapYear (year : Int) : Bool :=
  year % 4 == 0 && (year % 100 != 0 || year % 400 == 0)

def daysInMonth (year : Int) (month : Nat) : Nat :=
  match month with
  | 2 => if isLeapYear year then 29 else 28
  | 4 => 30
  | 6 => 30
  | 9 => 30
  | 11 => 30
  | _ => 31

/-- The first year that dates may have. -/
def firstYear : Int := -262143

/-- The last year that dates may have. -/
def lastYear : Int := 262142

namespace Date

def ofParts? (year : Int) (month day : Nat) : Option Date :=
  if firstYear ≤ year && year ≤ lastYear && 1 ≤ month && month ≤ 12 && 1 ≤ day
      && day ≤ daysInMonth year month then
    some ⟨year, month, day⟩
  else none

/-- The number of days from the first of January 1970. -/
def dayNumber (d : Date) : Int :=
  let year := if d.month ≤ 2 then d.year - 1 else d.year
  let era := year / 400
  let yearOfEra := year - era * 400
  let dayOfYear := (153 * ((d.month + 9) % 12) + 2) / 5 + d.day - 1
  era * 146097 + (yearOfEra * 365 + yearOfEra / 4 - yearOfEra / 100 + dayOfYear) - 719468

/-- The date with a given number of days from the first of January 1970, whatever its year. -/
def ofDayNumber (n : Int) : Date :=
  let shifted := n + 719468
  let era := shifted / 146097
  let dayOfEra := shifted - era * 146097
  let yearOfEra := (dayOfEra - dayOfEra / 1460 + dayOfEra / 36524 - dayOfEra / 146096) / 365
  let dayOfYear := dayOfEra - (365 * yearOfEra + yearOfEra / 4 - yearOfEra / 100)
  let march := (5 * dayOfYear + 2) / 153
  let day := dayOfYear - (153 * march + 2) / 5 + 1
  let month := if march < 10 then march + 3 else march - 9
  let year := yearOfEra + era * 400
  ⟨if month ≤ 2 then year + 1 else year, month.toNat, day.toNat⟩

/-- The day of the year, from 1. -/
def ordinal (d : Date) : Nat :=
  (d.dayNumber - dayNumber ⟨d.year, 1, 1⟩).toNat + 1

/-- The day of the week, Monday being 0. -/
def weekday (d : Date) : Nat :=
  ((d.dayNumber + 3) % 7).toNat

/-- The day of the week, Sunday being 0. -/
def weekdayFromSunday (d : Date) : Nat :=
  (d.weekday + 1) % 7

/-- The week of the year when weeks start on the weekday that is `fromStart` days before this date:
the days before the first such weekday are in week 0. -/
def weekOfYear (d : Date) (fromStart : Nat) : Nat :=
  (d.ordinal + 6 - fromStart) / 7

/-- The year and week by the rule that a week belongs to the year of its Thursday. -/
def isoWeek (d : Date) : Int × Nat :=
  let thursday := ofDayNumber (d.dayNumber - d.weekday + 3)
  (thursday.year, (thursday.ordinal - 1) / 7 + 1)

end Date

/-- A date and a time of day in coordinated universal time. A leap second is the second before it
with at least `10 ^ 9` nanoseconds. -/
structure Moment where
  date : Date
  secondOfDay : Nat
  nanosecond : Nat
deriving DecidableEq, Repr, Inhabited

namespace Moment

/-- The start of 1970. -/
def epoch : Moment :=
  ⟨⟨1970, 1, 1⟩, 0, 0⟩

/-- The moment that is a number of seconds from the start of a day, which may lie on another day. -/
def ofSeconds (day : Int) (seconds : Int) (nanosecond : Nat) : Moment :=
  ⟨.ofDayNumber (day + seconds / 86400), (seconds % 86400).toNat, nanosecond⟩

def inRange (m : Moment) : Bool :=
  firstYear ≤ m.date.year && m.date.year ≤ lastYear

def ofTimestamp? (seconds : Int) : Option Moment :=
  let m := ofSeconds 0 seconds 0
  if m.inRange then some m else none

/-- The seconds from the start of 1970; a leap second counts as the one before it. -/
def timestamp (m : Moment) : Int :=
  m.date.dayNumber * 86400 + m.secondOfDay

def hour (m : Moment) : Nat :=
  m.secondOfDay / 3600

def hour12 (m : Moment) : Nat :=
  if m.hour % 12 = 0 then 12 else m.hour % 12

def minute (m : Moment) : Nat :=
  m.secondOfDay / 60 % 60

/-- The second of the minute, 60 for a leap second. -/
def second (m : Moment) : Nat :=
  m.secondOfDay % 60 + m.nanosecond / 1000000000

/-- The nanoseconds within the second. -/
def subsecond (m : Moment) : Nat :=
  m.nanosecond % 1000000000

end Moment
end TemplateSite.Calendar
