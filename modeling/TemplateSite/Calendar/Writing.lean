import TemplateSite.Calendar.Date
import TemplateSite.Calendar.Pattern

/-!
# Written moments

Numbers of two digits are written from the last eight bits of the number; more than two digits show
as one character past the nine. Years outside four digits always have a sign.
-/
namespace TemplateSite.Calendar

def monthNames : List String :=
  ["January", "February", "March", "April", "May", "June", "July", "August", "September", "October",
    "November", "December"]

def weekdayNames : List String :=
  ["Monday", "Tuesday", "Wednesday", "Thursday", "Friday", "Saturday", "Sunday"]

/-- A name, or its first three letters. -/
def nameAt (names : List String) (index : Nat) (short : Bool) : List Char :=
  let name := (names[index]?.getD "").toList
  if short then name.take 3 else name

def fill (c : Char) (width : Nat) (s : List Char) : List Char :=
  List.replicate (width - s.length) c ++ s

def twoDigits (n : Int) (pad : Pad) : List Char :=
  let byte := (n % 256).toNat
  let ones := Char.ofNat (48 + byte % 10)
  match byte / 10, pad with
  | 0, .none => [ones]
  | 0, .space => [' ', ones]
  | tens, _ => [Char.ofNat (48 + tens), ones]

/-- A number filled up to a width, which counts its sign; a plus sign is shown if asked for, and
then the width grows by one. -/
def wide (width : Nat) (n : Int) (pad : Pad) (plus : Bool) : List Char :=
  let digits := Nat.toDigits 10 n.natAbs
  let sign := if n < 0 then ['-'] else if plus then ['+'] else []
  let width := if plus then width + 1 else width
  match pad with
  | .none => sign ++ digits
  | .zero => sign ++ fill '0' (width - sign.length) digits
  | .space => fill ' ' width (sign ++ digits)

/-- A year, with a sign unless it has four digits at most. -/
def writeYear (year : Int) (pad : Pad) : List Char :=
  wide 4 year pad (year < 0 || 10000 ≤ year)

def digit (n : Nat) : List Char :=
  Nat.toDigits 10 n

def writeFraction (nanosecond places : Nat) : List Char :=
  fill '0' places (Nat.toDigits 10 (nanosecond / Nat.pow 10 (9 - places)))

/-- The fraction of a second after a point, with as many groups of three places as it needs. -/
def shortFraction (nanosecond : Nat) : List Char :=
  if nanosecond = 0 then []
  else if nanosecond % 1000000 = 0 then '.' :: writeFraction nanosecond 3
  else if nanosecond % 1000 = 0 then '.' :: writeFraction nanosecond 6
  else '.' :: writeFraction nanosecond 9

namespace Moment

def writeField (m : Moment) (field : Field) (pad : Pad) : List Char :=
  match field with
  | .year => writeYear m.date.year pad
  | .century => twoDigits (m.date.year / 100) pad
  | .yearOfCentury => twoDigits (m.date.year % 100) pad
  | .isoYear => writeYear m.date.isoWeek.1 pad
  | .isoYearOfCentury => twoDigits (m.date.isoWeek.1 % 100) pad
  | .quarter => digit ((m.date.month - 1) / 3 + 1)
  | .month => twoDigits m.date.month pad
  | .day => twoDigits m.date.day pad
  | .weekFromSunday => twoDigits (m.date.weekOfYear m.date.weekdayFromSunday) pad
  | .weekFromMonday => twoDigits (m.date.weekOfYear m.date.weekday) pad
  | .isoWeek => twoDigits m.date.isoWeek.2 pad
  | .weekdayFromSunday => digit m.date.weekdayFromSunday
  | .weekdayFromMonday => digit (m.date.weekday + 1)
  | .ordinal => wide 3 m.date.ordinal pad false
  | .hour => twoDigits m.hour pad
  | .hour12 => twoDigits m.hour12 pad
  | .minute => twoDigits m.minute pad
  | .second => twoDigits m.second pad
  | .nanosecond => wide 9 m.subsecond pad false
  | .timestamp => wide 9 m.timestamp pad false

def writeStandard (m : Moment) : List Char :=
  writeYear m.date.year .zero ++ '-' :: twoDigits m.date.month .zero ++
    '-' :: twoDigits m.date.day .zero ++ 'T' :: twoDigits m.hour .zero ++
    ':' :: twoDigits m.minute .zero ++ ':' :: twoDigits m.second .zero ++
    shortFraction m.subsecond ++ "+00:00".toList

def writeItem? (m : Moment) : PatternItem → Option (List Char)
  | .literal c => some [c]
  | .number field pad => some (m.writeField field pad)
  | .monthName short => some (nameAt monthNames (m.date.month - 1) short)
  | .weekdayName short => some (nameAt weekdayNames m.date.weekday short)
  | .meridiem upper =>
    let afternoon := 12 ≤ m.hour
    some (if upper then (if afternoon then "PM" else "AM").toList
      else (if afternoon then "pm" else "am").toList)
  | .fraction none _ => some (shortFraction m.subsecond)
  | .fraction (some places) point =>
    some ((if point then ['.'] else []) ++ writeFraction m.subsecond places)
  | .zoneName => some "+00:00".toList
  | .offset .plain => some "+0000".toList
  | .offset .colon => some "+00:00".toList
  | .offset .twoColons => some "+00:00:00".toList
  | .offset .hoursOnly => some "+00".toList
  | .standard => some m.writeStandard
  | .unwritable => none

/-- A moment by a pattern, unless one of its parts has no written form. -/
def write? (m : Moment) : List PatternItem → Option (List Char)
  | [] => some []
  | item :: rest => do
    let s ← m.writeItem? item
    let more ← m.write? rest
    return s ++ more

end Moment
end TemplateSite.Calendar
