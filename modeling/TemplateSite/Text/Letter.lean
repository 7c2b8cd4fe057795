import TemplateSite.Text.Letter.Table

/-!
# Letters, digits and the characters of names

A letter is a character of the Unicode property Alphabetic; a number character is one of the
categories Nd, Nl and No. ASCII is decided directly, the rest by table.
-/
namespace TemplateSite.Text

/-- The digits 0 to 9. -/
def isDigit (c : Char) : Bool :=
  '0' ≤ c && c ≤ '9'

/-- The letters a to z and A to Z. -/
def isAsciiLetter (c : Char) : Bool :=
  ('a' ≤ c && c ≤ 'z') || ('A' ≤ c && c ≤ 'Z')

/-- The characters of the property Alphabetic. -/
def isLetter (c : Char) : Bool :=
  isAsciiLetter c || (0x80 ≤ c.toNat && alphabeticRanges.contains c.toNat)

/-- The characters of the categories Nd, Nl and No. -/
def isNumber (c : Char) : Bool :=
  isDigit c || (0x80 ≤ c.toNat && numericRanges.contains c.toNat)

def isLetterOrNumber (c : Char) : Bool :=
  isLetter c || isNumber c

theorem isLetterOrNumber_of_isLetter {c : Char} (h : isLetter c = true) :
    isLetterOrNumber c = true := by
  simp [isLetterOrNumber, h]

def digitValue (c : Char) : Nat :=
  c.toNat - '0'.toNat

/-- The number that digits spell in base ten, the first one leading. -/
def natOfDigits (digits : List Char) : Nat :=
  digits.foldl (fun n c => 10 * n + digitValue c) 0

end TemplateSite.Text
