/-!
# Date patterns

A pattern is literal text with conversions, each a percent sign and a letter. A dash, a zero or an
underscore before the letter of a plain number chooses how it is padded. Some letters stand for
several conversions, which cannot be padded.
-/
namespace TemplateSite.Calendar

/-- How a number is filled up to its width. -/
inductive Pad where
  | none
  | zero
  | space
deriving DecidableEq, Repr

inductive Field where
  | year
  | century
  | yearOfCentury
  | isoYear
  | isoYearOfCentury
  | quarter
  | month
  | day
  | weekFromSunday
  | weekFromMonday
  | isoWeek
  | weekdayFromSunday
  | weekdayFromMonday
  | ordinal
  | hour
  | hour12
  | minute
  | second
  | nanosecond
  | timestamp
deriving DecidableEq, Repr

inductive OffsetStyle where
  | plain
  | colon
  | twoColons
  | hoursOnly
deriving DecidableEq, Repr

inductive PatternItem where
  | literal (c : Char)
  | number (field : Field) (pad : Pad)
  | monthName (short : Bool)
  | weekdayName (short : Bool)
  | meridiem (upper : Bool)
  /-- The fraction of the second; without a number of places as many as it needs. -/
  | fraction (places : Option Nat) (point : Bool)
  | zoneName
  | offset (style : OffsetStyle)
  /-- Date, time and offset in the form of the internet standard. -/
  | standard
  /-- A conversion that is accepted but has no written form. -/
  | unwritable
deriving DecidableEq, Repr

namespace PatternItem

def joined (separator : Char) (a b c : Field × Pad) : List PatternItem :=
  [number a.1 a.2, literal separator, number b.1 b.2, literal separator, number c.1 c.2]

def clock : List PatternItem :=
  joined ':' (.hour, .zero) (.minute, .zero) (.second, .zero)

def slashed : List PatternItem :=
  joined '/' (.month, .zero) (.day, .zero) (.yearOfCentury, .zero)

/-- The number that a letter stands for, with its usual padding. -/
def number? : Char → Option (Field × Pad)
  | 'C' => some (.century, .zero)
  | 'G' => some (.isoYear, .zero)
  | 'H' => some (.hour, .zero)
  | 'I' => some (.hour12, .zero)
  | 'M' => some (.minute, .zero)
  | 'S' => some (.second, .zero)
  | 'U' => some (.weekFromSunday, .zero)
  | 'V' => some (.isoWeek, .zero)
  | 'W' => some (.weekFromMonday, .zero)
  | 'Y' => some (.year, .zero)
  | 'd' => some (.day, .zero)
  | 'e' => some (.day, .space)
  | 'f' => some (.nanosecond, .zero)
  | 'g' => some (.isoYearOfCentury, .zero)
  | 'j' => some (.ordinal, .zero)
  | 'k' => some (.hour, .space)
  | 'l' => some (.hour12, .space)
  | 'm' => some (.month, .zero)
  | 'q' => some (.quarter, .none)
  | 's' => some (.timestamp, .none)
  | 'u' => some (.weekdayFromMonday, .none)
  | 'w' => some (.weekdayFromSunday, .none)
  | 'y' => some (.yearOfCentury, .zero)
  | _ => none

/-- What a letter stands for that is no plain number. -/
def other? : Char → Option (List PatternItem)
  | 'A' => some [weekdayName false]
  | 'B' => some [monthName false]
  | 'D' => some slashed
  | 'F' => some (joined '-' (.year, .zero) (.month, .zero) (.day, .zero))
  | 'P' => some [meridiem false]
  | 'R' => some [number .hour .zero, literal ':', number .minute .zero]
  | 'T' => some clock
  | 'X' => some clock
  | 'Z' => some [zoneName]
  | 'a' => some [weekdayName true]
  | 'b' => some [monthName true]
  | 'c' => some ([weekdayName true, literal ' ', monthName true, literal ' ', number .day .space,
      literal ' '] ++ clock ++ [literal ' ', number .year .zero])
  | 'h' => some [monthName true]
  | 'n' => some [literal '\n']
  | 'p' => some [meridiem true]
  | 'r' => some (joined ':' (.hour12, .zero) (.minute, .zero) (.second, .zero) ++
      [literal ' ', meridiem true])
  | 't' => some [literal '\t']
  | 'v' => some [number .day .space, literal '-', monthName true, literal '-', number .year .zero]
  | 'x' => some slashed
  | 'z' => some [offset .plain]
  | '+' => some [standard]
  | '%' => some [literal '%']
  | _ => none

def places? : Char → Option Nat
  | '3' => some 3
  | '6' => some 6
  | '9' => some 9
  | _ => none

def pad? : Char → Option Pad
  | '-' => some .none
  | '0' => some .zero
  | '_' => some .space
  | _ => none

def conversion? : List Char → Option (List PatternItem × List Char)
  | [] => none
  | '#' :: 'z' :: rest => some ([unwritable], rest)
  | ':' :: ':' :: ':' :: 'z' :: rest => some ([offset .hoursOnly], rest)
  | ':' :: ':' :: 'z' :: rest => some ([offset .twoColons], rest)
  | ':' :: 'z' :: rest => some ([offset .colon], rest)
  | '.' :: 'f' :: rest => some ([fraction none true], rest)
  | '.' :: d :: 'f' :: rest => (places? d).map fun n => ([fraction (some n) true], rest)
  | c :: rest =>
    match pad? c with
    | some pad =>
      match rest with
      | [] => none
      | letter :: rest => (number? letter).map fun (field, _) => ([number field pad], rest)
    | none =>
      match number? c with
      | some (field, pad) => some ([number field pad], rest)
      | none =>
        match places? c, rest with
        | some n, 'f' :: rest => some ([fraction (some n) false], rest)
        | _, _ => (other? c).map fun items => (items, rest)

/-- Reads the parts of a pattern; at most `n` of them. -/
def readWithin? : Nat → List Char → Option (List PatternItem)
  | _, [] => some []
  | 0, _ => none
  | n + 1, '%' :: rest =>
    match conversion? rest with
    | none => none
    | some (items, rest) => (readWithin? n rest).map (items ++ ·)
  | n + 1, c :: rest => (readWithin? n rest).map (literal c :: ·)

def read? (s : List Char) : Option (List PatternItem) :=
  readWithin? s.length s

end PatternItem
end TemplateSite.Calendar
