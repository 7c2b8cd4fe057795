import TemplateSite.Template.Tag

/-!
# Building a tree from pieces

The builder keeps the tags that are open, innermost first, each with the finished siblings around
it, and the siblings at the current place, the latest first. A piece either adds a sibling, opens a
tag, closes the innermost one, or is refused.
-/
namespace TemplateSite
open Text

/-- An open tag, the line it starts on, and the siblings before it, the latest first. -/
structure Frame where
  tag : OpenTag
  line : Nat
  outer : List Node

/-- A tree under construction. -/
structure Builder where
  frames : List Frame
  siblings : List Node
  /-- Whether the next text loses the blanks at its front. -/
  trimNext : Bool

namespace Builder

def empty : Builder :=
  ⟨[], [], false⟩

def append (b : Builder) (node : Node) : Builder :=
  { b with siblings := node :: b.siblings }

/-- Adds a text to the siblings: it continues a text just before it, and an empty one is dropped. -/
def joinText (line : Nat) (s : List Char) (siblings : List Node) : List Node :=
  if s.isEmpty then siblings
  else
    match siblings with
    | .mk (.text t) l file children :: rest =>
      .mk (.text (t ++ String.ofList s)) l file children :: rest
    | _ => .leaf (.text (String.ofList s)) line :: siblings

/-- Adds a text, trimmed at its front if a tag before it asked for that. -/
def appendText (b : Builder) (line : Nat) (s : List Char) : Builder :=
  let s := if b.trimNext then trimStart s else s
  { b with siblings := joinText line s b.siblings, trimNext := false }

/-- Trims the end of a text just before the current place, and drops the text if nothing is
left. -/
def trimLast (siblings : List Node) : List Node :=
  match siblings with
  | .mk (.text t) line file children :: rest =>
    let s := trimEnd t.toList
    if s.isEmpty then rest else .mk (.text (String.ofList s)) line file children :: rest
  | _ => siblings

/-- Applies the dashes of an output or a tag to the texts around it. -/
def applyDashes (b : Builder) (dashes : Dashes) : Builder :=
  { b with
    siblings := if dashes.left then trimLast b.siblings else b.siblings
    trimNext := dashes.right }

def enter (b : Builder) (tag : OpenTag) (line : Nat) : Builder :=
  { b with frames := ⟨tag, line, b.siblings⟩ :: b.frames, siblings := [] }

/-- Ends the branch under way and starts another one. -/
def nextBranch (b : Builder) (line : Nat) (keyword : Keyword)
    (test : Except CompileFault (Option Expr)) : Except CompileFault Builder :=
  match b.frames with
  | ⟨.conditional negated branches oldTest negate branchLine false, start, outer⟩ :: frames => do
    let test ← test
    let branch := branchNode oldTest negate branchLine b.siblings.reverse
    let tag := OpenTag.conditional negated (branch :: branches) test false line
      (keyword == .otherwise)
    return { b with frames := ⟨tag, start, outer⟩ :: frames, siblings := [] }
  | _ => throw (.unexpectedTag line keyword.name)

def close (b : Builder) (line : Nat) (c : Construct) : Except CompileFault Builder :=
  match b.frames with
  | ⟨tag, start, outer⟩ :: frames =>
    if tag.construct? = some c then
      .ok { b with frames, siblings := tag.node start b.siblings.reverse :: outer }
    else .error (.unexpectedTag line c.closing)
  | [] => .error (.unexpectedTag line c.closing)

def onTag {α : Type} (line : Nat) (tag : String) (read : Except SyntaxFault α) :
    Except CompileFault α :=
  read.mapError (.invalid line tag)

def blockName (args : List Char) : Except SyntaxFault String :=
  let name := Reference.stripQuotes args
  if name.any isBlank then .error (.invalidBlockName (String.ofList args))
  else .ok (String.ofList name)

/-- Reads the file reference of a layout, which takes no arguments and stands outside all tags. -/
def layoutFile (b : Builder) (args : List Char) : Except SyntaxFault String :=
  if b.frames.isEmpty then do
    let ref ← FileRef.parse args
    if ref.args.isEmpty then return ref.raw else throw .layoutArguments
  else .error .layoutNotAtTop

def tag (b : Builder) (line : Nat) (keyword : Keyword) (args : List Char) :
    Except CompileFault Builder :=
  let read {α : Type} (r : Except SyntaxFault α) := onTag line keyword.name r
  match keyword with
  | .opening (.conditional negated) => do
    let test ← read (Expr.parseCondition args)
    return b.enter (.conditional negated [] (some test) negated line false) line
  | .opening .loop => do
    let spec ← read (LoopSpec.parse args)
    return b.enter (.loop spec) line
  | .opening .block => do
    let name ← read (blockName args)
    return b.enter (.block name) line
  | .closing c => b.close line c
  | .elseIf => b.nextBranch line keyword (read ((Expr.parseCondition args).map some))
  | .otherwise => b.nextBranch line keyword (.ok none)
  | .include => do
    let ref ← read (FileRef.parse args)
    return b.append (.mk (.include ref.args) line (some ref.raw) none)
  | .layout => do
    let file ← read (b.layoutFile args)
    return b.enter (.layout file) line
  | .assign => do
    let (name, value) ← read (Output.parseAssignment args)
    return b.append (.leaf (.assign name value) line)
  | .regionEnd r => throw (.unexpectedTag line r.closing)

def add (b : Builder) (piece : Piece) : Except CompileFault Builder :=
  match piece with
  | .text line s => .ok (b.appendText line s)
  | .output line dashes body => do
    let output ← onTag line "output" (Output.parse body)
    return (b.applyDashes dashes).append (.leaf (.output output) line)
  | .tag line dashes name args =>
    if name.isEmpty then .error (.invalid line "tag" .emptyTag)
    else
      match Keyword.ofName? name with
      | none => .error (.unknownTag line (String.ofList name))
      | some keyword => (b.applyDashes dashes).tag line keyword args
  | .raw line opening body closing =>
    let body := if closing.left then trimEnd body else body
    let b := (b.applyDashes opening).appendText line body
    .ok { b with trimNext := closing.right }
  | .comment _ opening closing =>
    .ok (b.applyDashes ⟨opening.left, closing.right⟩)

/-- Closes what is open at the end of the source: layouts end there, every other tag is missing its
end. The first list holds the siblings inside the innermost frame, the latest first. -/
def finishFrames (siblings : List Node) : List Frame → Except CompileFault (List Node)
  | [] => .ok siblings.reverse
  | frame :: frames =>
    match frame.tag.construct? with
    | none => finishFrames (frame.tag.node frame.line siblings.reverse :: frame.outer) frames
    | some c => .error (.unclosed frame.line c.name)

/-- The tree, if no tag is left open. -/
def finish (b : Builder) : Except CompileFault (List Node) :=
  finishFrames b.siblings b.frames

end Builder
end TemplateSite
