import TemplateSite.Options
import TemplateSite.Reference
import TemplateSite.Render.Evaluate
import TemplateSite.Render.Filter
import TemplateSite.Render.Partial

/-!
# Rendering trees

Nodes are rendered in order, each from the state that the one before it left. Inside an include or a
layout another tree is rendered; how many more may be nested there is counted down, and where no
more may, the next one is a fault.
-/
namespace TemplateSite

/-- What stays the same during a rendering. -/
structure Rendering where
  options : Options
  load : Loader

/-- The state of a rendering: the context, the partials that are kept, and the output so far. -/
structure Run where
  context : Context
  cache : PartialCache
  out : String

namespace Run

def write (run : Run) (s : String) : Run :=
  { run with out := run.out ++ s }

def onContext (run : Run) (f : Context → Context) : Run :=
  { run with context := f run.context }

def withMode (run : Run) (mode : BlockMode) : Run :=
  run.onContext fun ctx => { ctx with mode }

def deeper (run : Run) : Run :=
  run.onContext fun ctx => { ctx with depth := ctx.depth + 1 }

def shallower (run : Run) : Run :=
  run.onContext fun ctx => { ctx with depth := ctx.depth - 1 }

def storeBlock (run : Run) (name content : String) : Run :=
  run.onContext fun ctx => { ctx with blocks := ctx.blocks.insert name content }

/-- Stores the content of a block unless the block has content. -/
def fillBlock (run : Run) (name content : String) : Run :=
  match run.context.blocks.get? name with
  | some _ => run
  | none => run.storeBlock name content

end Run

namespace Rendering

def eval (r : Rendering) (run : Run) (e : Expr) : Outcome Value :=
  e.eval r.options.strictVariables run.context

def evalFilters (r : Rendering) (run : Run) (calls : List FilterCall) (input : Value) :
    Outcome Value :=
  calls.foldlM (fun value call => do
    let args ← evalAll r.options.strictVariables run.context call.args
    applyFilter r.options.strictFilters r.options.now call.name value args) input

def evalOutput (r : Rendering) (run : Run) (output : Output) : Outcome Value := do
  let value ← r.eval run output.expr
  r.evalFilters run output.filters value

/-- The path of a file reference: a quoted one is taken literally, a bare one is a variable that
holds the name. -/
def filePath (r : Rendering) (run : Run) (raw : String) : Outcome Path :=
  let reference := Text.trim raw.toList
  let text := String.ofList reference
  if Reference.isQuoted reference then
    .ok (Reference.resolve text r.options.root r.options.extname)
  else
    match Expr.parsePath reference with
    | .error _ => .fault (.malformedReference text)
    | .ok e => do
      match ← r.eval run e with
      | .text name => return Reference.join r.options.root name r.options.extname
      | v => Outcome.fault (.referenceKind v.kind)

/-- A bound of a loop; a negative one is zero. -/
def loopBound (r : Rendering) (run : Run) (bound : LoopBound) (e : Expr) : Outcome Nat := do
  match ← r.eval run e with
  | .int n => return n.toInt.toNat
  | v => Outcome.fault (.type (.loopBound bound v.kind))

/-- What a loop runs over: the items of a list, the names and values of an object, or the one text
that is not empty. -/
def collectionItems : Value → List Value
  | .list items => items
  | .object fields => fields.map fun (name, value) => .list [.text name, value]
  | .text s => if s.isEmpty then [] else [.text s]
  | _ => []

/-- What a bound leaves of the items: an offset drops that many at the front, a limit takes that
many. -/
def cutItems (bound : LoopBound) (n : Nat) (items : List Value) : List Value :=
  match bound with
  | .offset => items.drop n
  | .limit => items.take n

def applyBound (r : Rendering) (run : Run) (bound : LoopBound) (e : Option Expr)
    (items : List Value) : Outcome (List Value) :=
  match e with
  | none => .ok items
  | some e => (r.loopBound run bound e).map fun n => cutItems bound n items

/-- The items that a loop visits, in order: the offset applies first, then the limit, and a reversed
loop visits what is left from the end. -/
def loopItems (r : Rendering) (run : Run) (spec : LoopSpec) : Outcome (List Value) := do
  let collection ← r.eval run spec.collection
  let items ← r.applyBound run .offset spec.offset (collectionItems collection)
  let items ← r.applyBound run .limit spec.limit items
  return if spec.reversed then items.reverse else items

def loopInfo (index length : Nat) : Value :=
  .object (Record.ofEntries [
    ("index", .ofCount (index + 1)),
    ("index0", .ofCount index),
    ("rindex", .ofCount (length - index)),
    ("rindex0", .ofCount (length - index - 1)),
    ("first", .bool (index == 0)),
    ("last", .bool (index + 1 == length)),
    ("length", .ofCount length)])

def loopScope (item : String) (value : Value) (index length : Nat) : Record Value :=
  Record.ofEntries [(item, value), ("forloop", loopInfo index length)]

abbrev Step := Run → Outcome Run

/-- Does a step for every item, in order; the first argument is the index of the first item. -/
def forEach (step : Nat → Value → Step) : Nat → List Value → Step
  | _, [], run => .ok run
  | index, item :: rest, run =>
    match step index item run with
    | .error failure => .error failure
    | .ok run => forEach step (index + 1) rest run

def taken (r : Rendering) (run : Run) (test : Option Expr) (negate : Bool) : Outcome Bool :=
  match test with
  | none => .ok true
  | some e => do
    let value ← r.eval run e
    return value.isTruthy != negate

/-- Renders the tree of a file one level deeper, where that is possible. -/
def enter (r : Rendering) (inner : Option (List Node → Step)) (path : Path) (nodes : List Node) :
    Step := fun run =>
  match inner with
  | none => .fault (.includeDepth r.options.maxIncludeDepth path)
  | some render => do
    let run ← render nodes run.deeper
    return run.shallower

/-- Does a step with an empty output, and answers with the output of the step; the output from
before goes on. -/
def aside (step : Step) (run : Run) : Outcome (String × Run) := do
  let inside ← step { run with out := "" }
  return (inside.out, { inside with out := run.out })

def renderInclude (r : Rendering) (inner : Option (List Node → Step)) (args : List Argument)
    (raw : String) : Step := fun run => do
  let path ← r.filePath run raw
  let (nodes, cache) ← r.load path run.cache
  let run := { run with cache }
  let scope ← evalArguments r.options.strictVariables run.context args
  let enclosed := r.enter inner path nodes
  let run ← enclosed (run.onContext fun ctx => ctx.push scope)
  return run.onContext Context.pop

/-- Renders a layout. The body comes first, and its blocks are stored; what it writes outside them
is the content of the block without a name. -/
def renderLayout (r : Rendering) (inner : Option (List Node → Step)) (raw : String)
    (body : Step) : Step := fun run => do
  let path ← r.filePath run raw
  let (nodes, cache) ← r.load path run.cache
  let mode := run.context.mode
  let (content, run) ← aside body ({ run with cache }.withMode .store)
  let run ← r.enter inner path nodes ((run.fillBlock "" content).withMode .output)
  return run.withMode mode

/-- Renders a block: the content that is stored for it, or else its own, inside which blocks write
out. -/
def renderBlock (name : String) (body : Step) : Step := fun run => do
  let (content, run) ←
    match run.context.blocks.get? name with
    | some content => pure (content, run)
    | none => do
      let (content, inside) ← aside body (run.withMode .output)
      pure (content, inside.withMode run.context.mode)
  match run.context.mode with
  | .store => return run.storeBlock name content
  | .output => return run.write content

def renderIteration (spec : LoopSpec) (body : Step) (length index : Nat) (item : Value) : Step :=
  fun run => do
    let run ← body (run.onContext fun ctx => ctx.push (loopScope spec.item item index length))
    return run.onContext Context.pop

def renderLoop (r : Rendering) (spec : LoopSpec) (body : Step) : Step := fun run => do
  let items ← r.loopItems run spec
  forEach (renderIteration spec body items.length) 0 items run

mutual

def renderNode (r : Rendering) (inner : Option (List Node → Step)) : Node → Step
  | .mk kind _ file children => fun run =>
    match kind with
    | .text s => .ok (run.write s)
    | .output output => do
      let value ← r.evalOutput run output
      return run.write value.display
    | .assign name output => do
      let value ← r.evalOutput run output
      return run.onContext fun ctx => ctx.assign name value
    | .include args =>
      match file with
      | none => .ok run
      | some raw => r.renderInclude inner args raw run
    | .layout =>
      match file with
      | none => .ok run
      | some raw => r.renderLayout inner raw (renderChildren r inner children) run
    | .block name => renderBlock name (renderChildren r inner children) run
    | .conditional => renderBranchesOf r inner children run
    | .branch _ _ => renderChildren r inner children run
    | .loop spec => r.renderLoop spec (renderChildren r inner children) run

def renderChildren (r : Rendering) (inner : Option (List Node → Step)) :
    Option (List Node) → Step
  | none => fun run => .ok run
  | some nodes => renderNodes r inner nodes

def renderNodes (r : Rendering) (inner : Option (List Node → Step)) : List Node → Step
  | [] => fun run => .ok run
  | node :: rest => fun run =>
    match renderNode r inner node run with
    | .error failure => .error failure
    | .ok run => renderNodes r inner rest run

def renderBranchesOf (r : Rendering) (inner : Option (List Node → Step)) :
    Option (List Node) → Step
  | none => fun run => .ok run
  | some nodes => renderBranches r inner nodes

/-- Renders the first branch that is taken; nodes that are no branches are passed over. -/
def renderBranches (r : Rendering) (inner : Option (List Node → Step)) : List Node → Step
  | [] => fun run => .ok run
  | .mk (.branch test negate) _ _ children :: rest => fun run =>
    match r.taken run test negate with
    | .error failure => .error failure
    | .ok true => renderChildren r inner children run
    | .ok false => renderBranches r inner rest run
  | _ :: rest => renderBranches r inner rest

end

/-- Renders nodes where includes and layouts may be nested a number of levels deeper. -/
def renderWithin (r : Rendering) : Nat → List Node → Step
  | 0 => renderNodes r none
  | levels + 1 => renderNodes r (some (renderWithin r levels))

/-- Renders nodes at the depth of the current context. -/
def render (r : Rendering) (nodes : List Node) : Step := fun run =>
  r.renderWithin (r.options.maxIncludeDepth - run.context.depth) nodes run

def renderText (r : Rendering) (nodes : List Node) (data : Value) : Outcome String := do
  let run ← r.render nodes ⟨.initial data, [], ""⟩
  return run.out

end Rendering

/-- Renders a tree against data, each partial being read and compiled once. -/
def renderTemplate (options : Options) (source : Source) (nodes : List Node) (data : Value) :
    Outcome String :=
  Rendering.renderText ⟨options, .cached source⟩ nodes data

end TemplateSite
