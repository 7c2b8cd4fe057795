import TemplateSite.Data.Printing

/-!
# Comparing values

Numbers are compared as doubles, whichever of the two kinds they have. Texts are ordered by code
points. Other pairs of values are unordered, and every order between them is false.
-/
namespace TemplateSite

inductive Comparison where
  | eq
  | ne
  | lt
  | gt
  | le
  | ge
  | contains
deriving DecidableEq, Repr

def Comparison.name : Comparison → String
  | .eq => "Eq"
  | .ne => "Ne"
  | .lt => "Lt"
  | .gt => "Gt"
  | .le => "Le"
  | .ge => "Ge"
  | .contains => "Contains"

namespace Value

/-- Equality in a condition: numbers by the double they stand for, everything else by structure. -/
def equals (left right : Value) : Bool :=
  match left.asFloat?, right.asFloat? with
  | some a, some b => a == b
  | _, _ => left.same right

/-- The order of two doubles; there is none if one is undefined. -/
def compareFloats? (a b : Float) : Option Ordering :=
  if a < b then some .lt else if b < a then some .gt else if a == b then some .eq else none

/-- The order of two texts by their code points. -/
def compareTexts (a b : String) : Ordering :=
  if a < b then .lt else if a = b then .eq else .gt

def compare? (left right : Value) : Option Ordering :=
  match left.asFloat?, right.asFloat? with
  | some a, some b => compareFloats? a b
  | _, _ =>
    match left, right with
    | .text a, .text b => some (compareTexts a b)
    | _, _ => none

def occursIn (part : List Char) : List Char → Bool
  | [] => part.isEmpty
  | c :: rest => part.isPrefixOf (c :: rest) || occursIn part rest

/-- Whether a value contains another: a text the other's output form, a list an equal item, an
object a field named by the other's output form. -/
def holds (left right : Value) : Bool :=
  match left with
  | .text s => occursIn right.display.toList s.toList
  | .list items => items.any fun item => item.equals right
  | .object fields => (Record.get? right.display fields).isSome
  | _ => false

end Value

def Comparison.decide (op : Comparison) (left right : Value) : Bool :=
  match op with
  | .eq => left.equals right
  | .ne => !left.equals right
  | .lt => left.compare? right == some .lt
  | .gt => left.compare? right == some .gt
  | .le => left.compare? right == some .lt || left.compare? right == some .eq
  | .ge => left.compare? right == some .gt || left.compare? right == some .eq
  | .contains => left.holds right

end TemplateSite
