import TemplateSite.Calendar.Reading
import TemplateSite.Calendar.Writing
import TemplateSite.Data.Access
import TemplateSite.Decimal.Numeral
import TemplateSite.Render.Fault
import TemplateSite.Text.Blank
import TemplateSite.Text.Case
import TemplateSite.Text.Entity

/-!
# Filters

A filter turns a value into another one. Filters on text work on the output form of any value. A
filter that is unknown passes its input through, or is a fault in strict mode.
-/
namespace TemplateSite
open Text

inductive Filter where
  | upcase
  | downcase
  | capitalize
  | strip
  | size
  | default
  | escape
  | append
  | prepend
  | join
  | first
  | last
  | arithmetic (op : Arithmetic)
  | date
deriving DecidableEq, Repr

namespace Filter

def ofName? (name : String) : Option Filter :=
  match name with
  | "upcase" => some .upcase
  | "downcase" => some .downcase
  | "capitalize" => some .capitalize
  | "strip" => some .strip
  | "size" => some .size
  | "default" => some .default
  | "escape" => some .escape
  | "append" => some .append
  | "prepend" => some .prepend
  | "join" => some .join
  | "first" => some .first
  | "last" => some .last
  | "plus" => some (.arithmetic .plus)
  | "minus" => some (.arithmetic .minus)
  | "times" => some (.arithmetic .times)
  | "date" => some .date
  | _ => none

/-- A function on characters applied to the output form of a value. -/
def onText (f : List Char → List Char) (v : Value) : Value :=
  .text (String.ofList (f v.display.toList))

/-- The number of parts of a list or an object, or of characters of the output form. -/
def sizeOf : Value → Value
  | .list items => .ofCount items.length
  | .object fields => .ofCount fields.length
  | .nil => .ofCount 0
  | v => .ofCount v.display.length

def isMissing : Value → Bool
  | .text s => s.isEmpty
  | .list items => items.isEmpty
  | v => !v.isTruthy

def joinItems (separator : String) : Value → Value
  | .list items => .text (separator.intercalate (items.map Value.display))
  | v => v

def firstOf : Value → Value
  | .list items => items.head?.getD .nil
  | .text s => (s.toList.head?.map fun c => Value.text (String.singleton c)).getD .nil
  | _ => .nil

def lastOf : Value → Value
  | .list items => items.getLast?.getD .nil
  | .text s => (s.toList.getLast?.map fun c => Value.text (String.singleton c)).getD .nil
  | _ => .nil

end Filter

/-- A number that arithmetic works on. -/
inductive Number where
  | int (n : Int64)
  | float (x : Float)

def Number.toFloat : Number → Float
  | .int n => Decimal.nearestInteger n
  | .float x => x

namespace Arithmetic

def onInt : Arithmetic → Int → Int → Int
  | plus, a, b => a + b
  | minus, a, b => a - b
  | times, a, b => a * b

def onFloat : Arithmetic → Float → Float → Float
  | plus, a, b => a + b
  | minus, a, b => a - b
  | times, a, b => a * b

/-- The number that a text writes between blanks. -/
def numeral? (s : List Char) : Option Number :=
  match Decimal.readInteger? s with
  | some n => some (.int n)
  | none => (Decimal.readFloat? s).map .float

def operand (op : Arithmetic) : Value → Except TypeFault Number
  | .int n => .ok (.int n)
  | .float x => .ok (.float x)
  | .text s =>
    let trimmed := trim s.toList
    match numeral? trimmed with
    | some n => .ok n
    | none => .error (.notNumeral op (String.ofList trimmed))
  | v => .error (.notNumber op v.kind)

/-- The result on numbers: exact on integers, and otherwise that of doubles. -/
def onNumbers (op : Arithmetic) : Number → Number → Except TypeFault Value
  | .int a, .int b =>
    match Decimal.int64? (op.onInt a.toInt b.toInt) with
    | some n => .ok (.int n)
    | none => .error (.integerOverflow op)
  | a, b => .ok (.float (op.onFloat a.toFloat b.toFloat))

def apply (op : Arithmetic) (left right : Value) : Except TypeFault Value := do
  let a ← op.operand left
  let b ← op.operand right
  op.onNumbers a b

end Arithmetic

/-- The moment that a value names, if it names one. Two words stand for the moment of the build. -/
def Value.moment? (now : Calendar.Moment) : Value → Option Calendar.Moment
  | .text "now" => some now
  | .text "today" => some now
  | .text s => Calendar.read? s.toList
  | .int n => Calendar.Moment.ofTimestamp? n.toInt
  | _ => none

/-- A value that names a moment, written by a pattern; other values are kept. -/
def dateText (now : Calendar.Moment) (input pattern : Value) : Outcome Value :=
  match pattern with
  | .text p =>
    match Calendar.PatternItem.read? p.toList with
    | none => .fault (.type (.datePattern p))
    | some items =>
      match input.moment? now with
      | none => .ok input
      | some m =>
        match m.write? items with
        | none => .error .breakdown
        | some s => .ok (.text (String.ofList s))
  | _ => .fault (.type .datePatternKind)

/-- Applies a filter. An absent argument is nil. -/
def Filter.apply (now : Calendar.Moment) (filter : Filter) (input : Value) (args : List Value) :
    Outcome Value :=
  let arg := args.head?.getD .nil
  match filter with
  | .upcase => .ok (onText upper input)
  | .downcase => .ok (onText lower input)
  | .capitalize => .ok (onText Text.capitalize input)
  | .strip => .ok (onText trim input)
  | .size => .ok (sizeOf input)
  | .default => .ok (if isMissing input then arg else input)
  | .escape => .ok (onText Text.escape input)
  | .append => .ok (.text (input.display ++ arg.display))
  | .prepend => .ok (.text (arg.display ++ input.display))
  | .join =>
    let separator :=
      match args with
      | [] => " "
      | v :: _ => v.display
    .ok (joinItems separator input)
  | .first => .ok (firstOf input)
  | .last => .ok (lastOf input)
  | .arithmetic op => (op.apply input arg).mapError fun e => .fault (.type e)
  | .date => dateText now input arg

def applyFilter (strict : Bool) (now : Calendar.Moment) (name : String) (input : Value)
    (args : List Value) : Outcome Value :=
  match Filter.ofName? name with
  | some filter => filter.apply now input args
  | none => if strict then .fault (.undefinedFilter name) else .ok input

end TemplateSite
