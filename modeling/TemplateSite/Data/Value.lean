import TemplateSite.Data.Record
import TemplateSite.Decimal.Nearest

/-!
# Values

The data that templates see: the context they are rendered against and every intermediate result.
Equality of values is structural, doubles being compared as numbers, so an undefined double differs
from itself and the two zeros are equal.
-/
namespace TemplateSite

/-- A value. The fields of an object form a record. -/
inductive Value where
  | nil
  | bool (b : Bool)
  | int (n : Int64)
  | float (x : Float)
  | text (s : String)
  | list (items : List Value)
  | object (fields : List (String × Value))
deriving Inhabited

namespace Value

/-- The kinds of values, as messages name them. -/
inductive Kind where
  | nil
  | boolean
  | integer
  | float
  | string
  | array
  | object
deriving DecidableEq, Repr

def Kind.name : Kind → String
  | .nil => "nil"
  | .boolean => "boolean"
  | .integer => "integer"
  | .float => "float"
  | .string => "string"
  | .array => "array"
  | .object => "object"

def kind : Value → Kind
  | .nil => .nil
  | .bool _ => .boolean
  | .int _ => .integer
  | .float _ => .float
  | .text _ => .string
  | .list _ => .array
  | .object _ => .object

/-- Everything is true in a condition but nil and false. -/
def isTruthy : Value → Bool
  | .nil => false
  | .bool b => b
  | _ => true

def emptyObject : Value :=
  .object []

def asFloat? : Value → Option Float
  | .int n => some (Decimal.nearestInteger n)
  | .float x => some x
  | _ => none

mutual

/-- Structural equality. -/
def same : Value → Value → Bool
  | .nil, .nil => true
  | .bool a, .bool b => a == b
  | .int a, .int b => a == b
  | .float a, .float b => a == b
  | .text a, .text b => a == b
  | .list a, .list b => sameItems a b
  | .object a, .object b => sameFields a b
  | _, _ => false

def sameItems : List Value → List Value → Bool
  | [], [] => true
  | a :: as, b :: bs => same a b && sameItems as bs
  | _, _ => false

def sameFields : List (String × Value) → List (String × Value) → Bool
  | [], [] => true
  | (k, a) :: as, (l, b) :: bs => k == l && same a b && sameFields as bs
  | _, _ => false

end

end Value
end TemplateSite
