import TemplateSite.Data.Access
import TemplateSite.Expression.Term
import TemplateSite.Render.Context
import TemplateSite.Render.Fault

/-!
# Evaluating expressions

An expression has a value in a context. A path that leads nowhere is nil, or a fault in strict mode.
Both operands of a comparison and both ends of a range are evaluated, from the left; a connective
evaluates its second operand only where the first does not decide.
-/
namespace TemplateSite

/-- The largest difference between the ends of a range. -/
def maxRangeSpan : Int := 1000000

def rangeItems (first last : Int) : List Value :=
  (List.range (last - first + 1).toNat).map fun (i : Nat) => .int (Int64.ofInt (first + i))

def rangeValue (first last : Value) : Outcome Value :=
  match first, last with
  | .int a, .int b =>
    if maxRangeSpan < b.toInt - a.toInt then .fault (.type (.rangeTooLarge a b))
    else .ok (.list (rangeItems a.toInt b.toInt))
  | _, _ => .fault (.type (.rangeBounds first.kind last.kind))

/-- The value of a path that may lead nowhere; in strict mode that is a fault. -/
def definedOr (strict : Bool) (shown : String) : Option Value → Outcome Value
  | some v => .ok v
  | none => if strict then .fault (.undefinedVariable shown) else .ok .nil

mutual

def Expr.eval (strict : Bool) (ctx : Context) : Expr → Outcome Value
  | .literal v => .ok v
  | .path root segments => do
    let found ←
      match ctx.get? root with
      | none => pure none
      | some start => Segment.follow strict ctx start segments
    definedOr strict (Expr.path root segments).shown found
  | .range first last => do
    let a ← first.eval strict ctx
    let b ← last.eval strict ctx
    rangeValue a b
  | .compare op left right => do
    let a ← left.eval strict ctx
    let b ← right.eval strict ctx
    return .bool (op.decide a b)
  | .and left right => do
    let a ← left.eval strict ctx
    if a.isTruthy then
      let b ← right.eval strict ctx
      return .bool b.isTruthy
    else return .bool false
  | .or left right => do
    let a ← left.eval strict ctx
    if a.isTruthy then return .bool true
    else
      let b ← right.eval strict ctx
      return .bool b.isTruthy

/-- Where the steps of a path lead from a value; the steps after one that leads nowhere are not
evaluated. -/
def Segment.follow (strict : Bool) (ctx : Context) (value : Value) :
    List Segment → Outcome (Option Value)
  | [] => .ok (some value)
  | segment :: rest => do
    let key ← segment.evalKey strict ctx
    match value.step? key with
    | none => return none
    | some part => Segment.follow strict ctx part rest

def Segment.evalKey (strict : Bool) (ctx : Context) : Segment → Outcome Value
  | .key name => .ok (.text name)
  | .index e => e.eval strict ctx

end

def evalAll (strict : Bool) (ctx : Context) (es : List Expr) : Outcome (List Value) :=
  es.mapM (Expr.eval strict ctx)

def evalArguments (strict : Bool) (ctx : Context) (args : List Argument) :
    Outcome (Record Value) :=
  args.foldlM (fun scope arg => do
    let value ← arg.2.eval strict ctx
    return scope.insert arg.1 value) []

end TemplateSite
