import TemplateSite.Calendar.Date
import TemplateSite.Text.Blank
import TemplateSite.Text.Letter

/-!
# Reading moments

Three forms are read: date, time and offset as the internet standard has them, with exactly as many
digits as it says; and date with time, or date alone, where a number may have fewer digits, blanks
before it, and the year a sign and any number of digits.
-/
namespace TemplateSite.Calendar
open Text

/-- Reads between `least` and `most` digits. -/
def readDigits? (least most : Nat) (s : List Char) : Option (Nat × List Char) :=
  let digits := (s.takeWhile isDigit).take most
  if digits.length < least then none else some (natOfDigits digits, s.drop digits.length)

def readChar? (c : Char) : List Char → Option (List Char)
  | [] => none
  | d :: rest => if d = c then some rest else none

/-- The moment of these parts, if there is one. A sixtieth second is a leap second. -/
def momentOfParts? (date : Date) (hour minute second nanosecond : Nat) : Option Moment :=
  if hour ≤ 23 && minute ≤ 59 && second ≤ 60 then
    if second = 60 then
      some ⟨date, hour * 3600 + minute * 60 + 59, nanosecond + 1000000000⟩
    else some ⟨date, hour * 3600 + minute * 60 + second, nanosecond⟩
  else none

/-- Reads the fraction of a second, if there is one; its first nine digits count. -/
def readFraction? : List Char → Option (Nat × List Char)
  | '.' :: rest =>
    let digits := rest.takeWhile isDigit
    if digits.isEmpty then none
    else
      let used := digits.take 9
      some (natOfDigits used * Nat.pow 10 (9 - used.length), rest.drop digits.length)
  | s => some (0, s)

def readOffset? : List Char → Option (Int × List Char)
  | [] => none
  | c :: rest =>
    if c = 'Z' || c = 'z' then some (0, rest)
    else if c = '+' || c = '-' || c = '\u2212' then do
      let (hours, rest) ← readDigits? 2 2 rest
      let rest ← readChar? ':' rest
      let (minutes, rest) ← readDigits? 2 2 rest
      if 59 < minutes || 23 < hours then none
      else
        let seconds : Int := hours * 3600 + minutes * 60
        some (if c = '+' then seconds else -seconds, rest)
    else none

/-- Reads a moment in the form of the internet standard. -/
def readStandard? (s : List Char) : Option Moment := do
  let (year, s) ← readDigits? 4 4 s
  let s ← readChar? '-' s
  let (month, s) ← readDigits? 2 2 s
  let s ← readChar? '-' s
  let (day, s) ← readDigits? 2 2 s
  let s ←
    match s with
    | c :: rest => if c = 'T' || c = 't' || c = ' ' then some rest else none
    | [] => none
  let (hour, s) ← readDigits? 2 2 s
  let s ← readChar? ':' s
  let (minute, s) ← readDigits? 2 2 s
  let s ← readChar? ':' s
  let (second, s) ← readDigits? 2 2 s
  let (nanosecond, s) ← readFraction? s
  let (offset, s) ← readOffset? s
  if !s.isEmpty then none
  else
    let date ← Date.ofParts? year month day
    let m ← momentOfParts? date hour minute second nanosecond
    return .ofSeconds date.dayNumber (m.secondOfDay - offset) m.nanosecond

/-- Reads a year: with a sign any number of digits, without one at most four. -/
def readYear? (s : List Char) : Option (Int × List Char) :=
  match trimStart s with
  | '-' :: rest => (readDigits? 1 rest.length rest).map fun (n, rest) => (-(n : Int), rest)
  | '+' :: rest => (readDigits? 1 rest.length rest).map fun (n, rest) => ((n : Int), rest)
  | s => (readDigits? 1 4 s).map fun (n, rest) => ((n : Int), rest)

/-- Reads a number of one or two digits after blanks. -/
def readPart? (s : List Char) : Option (Nat × List Char) :=
  readDigits? 1 2 (trimStart s)

/-- Reads year, month and day joined by dashes. -/
def readDate? (s : List Char) : Option (Date × List Char) := do
  let (year, s) ← readYear? s
  let s ← readChar? '-' s
  let (month, s) ← readPart? s
  let s ← readChar? '-' s
  let (day, s) ← readPart? s
  let date ← Date.ofParts? year month day
  return (date, s)

def readDateTime? (s : List Char) : Option Moment := do
  let (date, s) ← readDate? s
  let (hour, s) ← readPart? s
  let s ← readChar? ':' s
  let (minute, s) ← readPart? s
  let s ← readChar? ':' s
  let (second, s) ← readPart? s
  if s.isEmpty then momentOfParts? date hour minute second 0 else none

/-- Reads a date, which stands for its first second. -/
def readDay? (s : List Char) : Option Moment :=
  match readDate? s with
  | some (date, []) => some ⟨date, 0, 0⟩
  | _ => none

/-- Reads a moment in the first of the three forms that fits. -/
def read? (s : List Char) : Option Moment :=
  match readStandard? s with
  | some m => some m
  | none =>
    match readDateTime? s with
    | some m => some m
    | none => readDay? s

end TemplateSite.Calendar
