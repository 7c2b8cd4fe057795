import TemplateSite.Data.Comparison

/-!
# Expressions

The expressions of the template language: literals, variable paths, ranges, comparisons and their
combinations, with filters applied to them in outputs and assignments, and the head of a loop.
-/
namespace TemplateSite

mutual

inductive Expr where
  | literal (v : Value)
  | path (root : String) (segments : List Segment)
  | range (first last : Expr)
  | compare (op : Comparison) (left right : Expr)
  | and (left right : Expr)
  | or (left right : Expr)

inductive Segment where
  | key (name : String)
  | index (e : Expr)

end

instance : Inhabited Expr := ⟨.literal .nil⟩

instance : Inhabited Segment := ⟨.key ""⟩

structure FilterCall where
  name : String
  args : List Expr
deriving Inhabited

/-- An expression and the filters it is passed through. -/
structure Output where
  expr : Expr
  filters : List FilterCall
deriving Inhabited

/-- The head of a loop. -/
structure LoopSpec where
  item : String
  collection : Expr
  limit : Option Expr
  offset : Option Expr
  reversed : Bool
deriving Inhabited

abbrev Argument := String × Expr

mutual

def Expr.shown : Expr → String
  | .literal v => v.shown
  | .path root segments => root ++ Segment.shownAll segments
  | .range first last => "(" ++ first.shown ++ ".." ++ last.shown ++ ")"
  | .compare op left right => left.shown ++ " " ++ op.name ++ " " ++ right.shown
  | .and left right => left.shown ++ " and " ++ right.shown
  | .or left right => left.shown ++ " or " ++ right.shown

def Segment.shown : Segment → String
  | .key name => "." ++ name
  | .index e => "[" ++ e.shown ++ "]"

def Segment.shownAll : List Segment → String
  | [] => ""
  | segment :: rest => segment.shown ++ Segment.shownAll rest

end

end TemplateSite
