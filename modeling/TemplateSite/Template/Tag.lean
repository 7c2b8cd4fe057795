import TemplateSite.Expression.Parser
import TemplateSite.Template.Node
import TemplateSite.Template.Piece

/-!
# Tags

The names of tags and the tags that are open while a template is built.
-/
namespace TemplateSite
open Text

/-- The constructs that a tag opens and its counterpart closes. -/
inductive Construct where
  | conditional (negated : Bool)
  | loop
  | block
deriving DecidableEq, Repr

def Construct.name : Construct → String
  | .conditional false => "if"
  | .conditional true => "unless"
  | .loop => "for"
  | .block => "block"

def Construct.closing (c : Construct) : String :=
  "end" ++ c.name

/-- The tags, apart from those that open a region. -/
inductive Keyword where
  | opening (c : Construct)
  | closing (c : Construct)
  | elseIf
  | otherwise
  | include
  | layout
  | assign
  /-- The closing tag of a region, which is out of place anywhere else. -/
  | regionEnd (r : Region)
deriving DecidableEq, Repr

namespace Keyword

def name : Keyword → String
  | opening c => c.name
  | closing c => c.closing
  | elseIf => "elsif"
  | otherwise => "else"
  | «include» => "include"
  | layout => "layout"
  | assign => "assign"
  | regionEnd r => r.closing

def constructs : List Construct :=
  [.conditional false, .conditional true, .loop, .block]

def all : List Keyword :=
  constructs.map opening ++ constructs.map closing ++
    [elseIf, otherwise, «include», layout, assign, regionEnd .raw, regionEnd .comment]

def ofName? (s : List Char) : Option Keyword :=
  all.find? fun k => k.name.toList == s

end Keyword

/-- A tag that waits for its end. -/
inductive OpenTag where
  /-- A conditional with the branches that are complete, the latest first, and the test, the sense
  and the line of the branch under way. A conditional is `sealed` by its last branch. -/
  | conditional (negated : Bool) (branches : List Node) (test : Option Expr) (negate : Bool)
      (branchLine : Nat) (sealed : Bool)
  | loop (spec : LoopSpec)
  | block (name : String)
  /-- A layout, which lasts until the end of the source. -/
  | layout (file : String)

/-- The construct that an open tag belongs to, if it has a closing tag. -/
def OpenTag.construct? : OpenTag → Option Construct
  | .conditional negated .. => some (.conditional negated)
  | .loop _ => some .loop
  | .block _ => some .block
  | .layout _ => none

/-- The branch under way, with the nodes inside it. -/
def branchNode (test : Option Expr) (negate : Bool) (line : Nat) (body : List Node) : Node :=
  .container (.branch test negate) line body

/-- The node of an open tag that starts on `line` and ends with the nodes of `body` inside. -/
def OpenTag.node (tag : OpenTag) (line : Nat) (body : List Node) : Node :=
  match tag with
  | .conditional _ branches test negate branchLine _ =>
    .container .conditional line (branchNode test negate branchLine body :: branches).reverse
  | .loop spec => .container (.loop spec) line body
  | .block name => .container (.block name) line body
  | .layout file => .mk .layout line (some file) (some body)

end TemplateSite
