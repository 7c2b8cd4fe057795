import Mathlib.Logic.Relation
import TemplateSite.Proofs.Render.Simulation

/-!
# The states of a rendering

A rendering goes from node to node and, inside includes, layouts, blocks, branches and loops,
through the nodes there. The points that it gets to on this way, also when it fails in the end, are
those that are reached from its start.
-/
namespace TemplateSite

/-- A point of a rendering: the nodes that are still to be rendered among their siblings, how many
levels deeper includes and layouts may be nested, and the state. -/
structure Stage where
  levels : Nat
  nodes : List Node
  run : Run

/-- Whether a node of this kind loads the file that it names. -/
def NodeKind.loads : NodeKind → Bool
  | .include _ => true
  | .layout => true
  | _ => false

namespace Rendering

variable (r : Rendering)

/-- A reference leads, in a state, to a file with these nodes, after which the cache is this one. -/
def Loads (run : Run) (raw : String) (nodes : List Node) (cache : PartialCache) : Prop :=
  ∃ path, r.filePath run raw = .ok path ∧ r.load path run.cache = .ok (nodes, cache)

/-- The nodes inside the first branch that is taken. -/
inductive Takes (run : Run) : List Node → List Node → Prop where
  | here {test : Option Expr} {negate : Bool} {line : Nat} {file : Option String}
    {body rest : List Node} (h : r.taken run test negate = .ok true) :
    Takes run (.mk (.branch test negate) line file (some body) :: rest) body
  | later {test : Option Expr} {negate : Bool} {line : Nat} {file : Option String}
    {children : Option (List Node)} {body rest : List Node}
    (h : r.taken run test negate = .ok false) (more : Takes run rest body) :
    Takes run (.mk (.branch test negate) line file children :: rest) body
  | other {node : Node} {body rest : List Node} (h : node.branch? = none)
    (more : Takes run rest body) : Takes run (node :: rest) body

/-- From a point of a rendering to one that it gets to from there: past the first node, into that
node, or to where the file that the node names is loaded. -/
inductive Leads : Stage → Stage → Prop where
  | past {levels : Nat} {node : Node} {rest : List Node} {run next : Run}
    (h : r.renderNode (r.inner levels) node run = .ok next) :
    Leads ⟨levels, node :: rest, run⟩ ⟨levels, rest, next⟩
  | loaded {levels line : Nat} {kind : NodeKind} {raw : String} {children : Option (List Node)}
    {rest nodes : List Node} {run : Run} {cache : PartialCache} (hk : kind.loads = true)
    (hl : r.Loads run raw nodes cache) :
    Leads ⟨levels, .mk kind line (some raw) children :: rest, run⟩ ⟨levels, [], { run with cache }⟩
  | included {levels line : Nat} {args : List Argument} {raw : String}
    {children : Option (List Node)} {rest nodes : List Node} {run : Run} {cache : PartialCache}
    {scope : Record Value} (hl : r.Loads run raw nodes cache)
    (hs : evalArguments r.options.strictVariables run.context args = .ok scope) :
    Leads ⟨levels + 1, .mk (.include args) line (some raw) children :: rest, run⟩
      ⟨levels, nodes, (({ run with cache } : Run).onContext fun ctx => ctx.push scope).deeper⟩
  | layoutBody {levels line : Nat} {raw : String} {body rest nodes : List Node} {run : Run}
    {cache : PartialCache} (hl : r.Loads run raw nodes cache) :
    Leads ⟨levels, .mk .layout line (some raw) (some body) :: rest, run⟩
      ⟨levels, body, { ({ run with cache } : Run).withMode .store with out := "" }⟩
  | layoutFile {levels line : Nat} {raw content : String} {children : Option (List Node)}
    {rest nodes : List Node} {run next : Run} {cache : PartialCache}
    (hl : r.Loads run raw nodes cache)
    (hb : aside (r.renderChildren (r.inner (levels + 1)) children)
      (({ run with cache } : Run).withMode .store) = .ok (content, next)) :
    Leads ⟨levels + 1, .mk .layout line (some raw) children :: rest, run⟩
      ⟨levels, nodes, ((next.fillBlock "" content).withMode .output).deeper⟩
  | block {levels line : Nat} {name : String} {file : Option String} {body rest : List Node}
    {run : Run} (h : run.context.blocks.get? name = none) :
    Leads ⟨levels, .mk (.block name) line file (some body) :: rest, run⟩
      ⟨levels, body, { run.withMode .output with out := "" }⟩
  | taken {levels line : Nat} {file : Option String} {branches body rest : List Node} {run : Run}
    (h : r.Takes run branches body) :
    Leads ⟨levels, .mk .conditional line file (some branches) :: rest, run⟩ ⟨levels, body, run⟩
  | branch {levels line : Nat} {test : Option Expr} {negate : Bool} {file : Option String}
    {body rest : List Node} {run : Run} :
    Leads ⟨levels, .mk (.branch test negate) line file (some body) :: rest, run⟩
      ⟨levels, body, run⟩
  | iteration {levels line : Nat} {spec : LoopSpec} {file : Option String} {body rest : List Node}
    {run next : Run} {before after : List Value} {item : Value}
    (hi : r.loopItems run spec = .ok (before ++ item :: after))
    (hb : forEach (renderIteration spec (r.renderNodes (r.inner levels) body)
      (before ++ item :: after).length) 0 before run = .ok next) :
    Leads ⟨levels, .mk (.loop spec) line file (some body) :: rest, run⟩
      ⟨levels, body, next.onContext fun ctx =>
        ctx.push (loopScope spec.item item before.length (before ++ item :: after).length)⟩

/-- The points that a rendering gets to from a point. -/
def Reaches : Stage → Stage → Prop :=
  Relation.ReflTransGen r.Leads

end Rendering
end TemplateSite
