import TemplateSite.Expression.Term

/-!
# Template trees

A compiled template is a list of nodes. A node carries its file reference and its children
independently: an include has a reference, the block tags have children, and a layout has both.
Compiling produces only some of the combinations; rendering and dependency discovery accept all.
-/
namespace TemplateSite

/-- What a node does. -/
inductive NodeKind where
  | text (s : String)
  | output (o : Output)
  | assign (name : String) (value : Output)
  | include (args : List Argument)
  | layout
  | block (name : String)
  /-- A conditional; its children are branches. -/
  | conditional
  /-- A branch, taken if its test is true, or false when negated; without a test it is always
  taken. -/
  | branch (test : Option Expr) (negate : Bool)
  | loop (spec : LoopSpec)
deriving Inhabited

/-- A node with the line it starts on. -/
inductive Node where
  | mk (kind : NodeKind) (line : Nat) (file : Option String) (children : Option (List Node))
deriving Inhabited

namespace Node

def kind : Node → NodeKind
  | .mk kind _ _ _ => kind

def line : Node → Nat
  | .mk _ line _ _ => line

/-- The file reference as it is written. -/
def file : Node → Option String
  | .mk _ _ file _ => file

def children : Node → Option (List Node)
  | .mk _ _ _ children => children

/-- A node with neither a reference nor children. -/
def leaf (kind : NodeKind) (line : Nat) : Node :=
  .mk kind line none none

def container (kind : NodeKind) (line : Nat) (children : List Node) : Node :=
  .mk kind line none (some children)

def text? : Node → Option String
  | .mk (.text s) _ _ _ => some s
  | _ => none

end Node
end TemplateSite
