import TemplateSite.Text.Case.Table

/-!
# Upper and lower case

A character may map to several: the sharp s becomes two letters. A capital sigma becomes the final
form where it ends a word, that is, after a cased letter and not before one, case-ignorable
characters being passed over on both sides.
-/
namespace TemplateSite.Text

namespace CaseShifts

/-- The code point that a run of shifts assigns to a code point. -/
def shift? (shifts : CaseShifts) (code : Nat) : Option Nat :=
  match shifts with
  | [] => none
  | (first, last, step, offset) :: rest =>
    if first ≤ code && code ≤ last && (code - first) % step == 0 then
      some (Int.ofNat code + offset).toNat
    else shift? rest code

end CaseShifts

/-- The mapping of one character under the given tables; a character outside them is kept. -/
def mapCase (shifts : CaseShifts) (expansions : CaseExpansions) (c : Char) : List Char :=
  match shifts.shift? c.toNat with
  | some code => [Char.ofNat code]
  | none =>
    match expansions.lookup c.toNat with
    | some codes => codes.map Char.ofNat
    | none => [c]

def upperChar (c : Char) : List Char :=
  if c.toNat < 0x80 then [c.toUpper] else mapCase upperShifts upperExpansions c

/-- The lower-case form of a character that is no capital sigma. -/
def lowerChar (c : Char) : List Char :=
  if c.toNat < 0x80 then [c.toLower] else mapCase lowerShifts lowerExpansions c

def upper (s : List Char) : List Char :=
  s.flatMap upperChar

/-- Whether the first character that is not case-ignorable is cased. -/
def meetsCased (s : List Char) : Bool :=
  match s.dropWhile fun c => caseIgnorableRanges.contains c.toNat with
  | [] => false
  | c :: _ => casedRanges.contains c.toNat

/-- Lower case of a text that follows other characters, the nearest of them first. -/
def lowerAfter (before : List Char) : List Char → List Char
  | [] => []
  | c :: rest =>
    let mapped :=
      if c = 'Σ' then
        if meetsCased before && !meetsCased rest then ['ς'] else ['σ']
      else lowerChar c
    mapped ++ lowerAfter (c :: before) rest

def lower (s : List Char) : List Char :=
  lowerAfter [] s

/-- Upper case for the first character; the rest is kept. -/
def capitalize : List Char → List Char
  | [] => []
  | c :: rest => upperChar c ++ rest

end TemplateSite.Text
