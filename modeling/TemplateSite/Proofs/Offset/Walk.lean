import TemplateSite.Proofs.Offset.Tokens
import TemplateSite.Template.Compile

/-!
# Walking over a source by offsets

A template is compiled in one walk over its source. The walk keeps an offset, a line counter that is
moved from one offset to another, a stack of the tags that are open and a stack of the nodes on each
level, one level more than there are tags. It breaks down where a slice does not lie in the source
or cuts a character, where the line counter would fall below zero, where a stack has no element to
take, and where a turn does not move the offset on.
-/
namespace TemplateSite.Offset
open TemplateSite.Text

/-- Where a walk over a source stands. -/
structure Walk where
  pos : Nat
  /-- The offset that the line counter belongs to. -/
  linePos : Nat
  line : Nat
  /-- The nodes on the levels, the innermost level first, on each the latest node first. -/
  levels : List (List Node)
  /-- The tags that are open with their lines, innermost first. -/
  tags : List (OpenTag × Nat)
  trimNext : Bool

/-- What a walk gives: a result, a fault of the source, or a breakdown. -/
abbrev Answer (α : Type) := Except (Failure CompileFault) α

def fault {α : Type} (e : CompileFault) : Answer α :=
  .error (.fault e)

def onTag {α : Type} (line : Nat) (tag : String) (read : Except (Failure SyntaxFault) α) :
    Answer α :=
  read.mapError (Failure.map (.invalid line tag))

def stripDashes (body : List Char) : Answer (List Char × Dashes) := do
  let left := body.head? = some '-'
  let body ← if left then dropTo 1 body else pure body
  let right := body.getLast? = some '-'
  let body ← if right then do takeTo (← minus (size body) 1) body else pure body
  return (body, ⟨left, right⟩)

/-- Looks in a tag for its closing delimiter, which starts with `d` and does not count between
quotation marks. The quotation mark that is open, the offset of the characters that are left, and
these are given. -/
def findClose (tag : List Char) (d : Char) :
    Option Char → Nat → List Char → Answer (Option Nat)
  | _, _, [] => .ok none
  | some q, i, c :: rest => findClose tag d (if c = q then none else some q) (i + c.utf8Size) rest
  | none, i, c :: rest =>
    if c = '\x27' ∨ c = '\x22' then findClose tag d (some c) (i + c.utf8Size) rest
    else do
      let here ← dropTo i tag
      if [d, '\x7d'].isPrefixOf here then return some i
      else findClose tag d none (i + c.utf8Size) rest

def splitBody (inner : List Char) : Answer (List Char × List Char) :=
  match findChar isBlank inner with
  | some i => do
    let name ← takeTo i inner
    let args ← dropTo i inner
    return (name, trim args)
  | none => .ok (inner, [])

/-- The body of the output or the tag that a text starts with, and the offset of its closing
delimiter, which starts with `d`. -/
def bodyOf (rest : List Char) (d : Char) : Answer (Option ((List Char × Dashes) × Nat)) := do
  match ← findClose rest d none (size (rest.take 2)) (rest.drop 2) with
  | none => return none
  | some last => return some (← stripDashes (← slice 2 last rest), last)

namespace Walk

/-- The line of an offset. The counter is moved there. -/
def lineAt (w : Walk) (src : List Char) (pos : Nat) : Answer (Nat × Walk) := do
  let line ←
    if w.linePos ≤ pos then do
      let between ← slice w.linePos pos src
      pure (w.line + lineEnds between)
    else do
      let between ← slice pos w.linePos src
      minus w.line (lineEnds between)
  return (line, { w with linePos := pos, line })

def popLevel (w : Walk) : Answer (List Node × Walk) :=
  match w.levels with
  | [] => .error .breakdown
  | level :: levels => .ok (level, { w with levels })

def pushLevel (w : Walk) (level : List Node) : Walk :=
  { w with levels := level :: w.levels }

def popTag (w : Walk) : Answer ((OpenTag × Nat) × Walk) :=
  match w.tags with
  | [] => .error .breakdown
  | tag :: tags => .ok (tag, { w with tags })

def append (w : Walk) (node : Node) : Answer Walk := do
  let (level, w) ← w.popLevel
  return w.pushLevel (node :: level)

def appendText (w : Walk) (s : List Char) (line : Nat) : Answer Walk := do
  let s := if w.trimNext then trimStart s else s
  let w := { w with trimNext := false }
  if s.isEmpty then return w
  else
    let (level, w) ← w.popLevel
    return w.pushLevel (Builder.joinText line s level)

def trimLast (w : Walk) : Answer Walk := do
  let (level, w) ← w.popLevel
  match level with
  | .mk (.text t) line file children :: rest => do
    let text ← takeTo (size (trimEnd t.toList)) t.toList
    return w.pushLevel
      (if text.isEmpty then rest else .mk (.text (String.ofList text)) line file children :: rest)
  | _ => return w.pushLevel level

def applyDash (w : Walk) (left : Bool) : Answer Walk :=
  if left then w.trimLast else .ok w

def enter (w : Walk) (tag : OpenTag) (line : Nat) : Walk :=
  { w with tags := (tag, line) :: w.tags, levels := [] :: w.levels }

def nextBranch (w : Walk) (line : Nat) (keyword : Keyword) (test : Answer (Option Expr)) :
    Answer Walk :=
  match w.tags.head? with
  | some (.conditional negated branches oldTest negate branchLine false, start) => do
    let test ← test
    let (body, w) ← w.popLevel
    let branch := branchNode oldTest negate branchLine body.reverse
    let tag := OpenTag.conditional negated (branch :: branches) test false line
      (keyword == .otherwise)
    return { w with tags := (tag, start) :: w.tags.tail }.pushLevel []
  | _ => fault (.unexpectedTag line keyword.name)

def close (w : Walk) (line : Nat) (c : Construct) : Answer Walk :=
  if (w.tags.head?.bind fun tag => tag.1.construct?) = some c then do
    let ((tag, start), w) ← w.popTag
    let (body, w) ← w.popLevel
    w.append (tag.node start body.reverse)
  else fault (.unexpectedTag line c.closing)

def tag (w : Walk) (line : Nat) (keyword : Keyword) (args : List Char) : Answer Walk :=
  let read {α : Type} (r : Except (Failure SyntaxFault) α) := onTag line keyword.name r
  match keyword with
  | .opening (.conditional negated) => do
    let test ← read (readCondition args)
    return w.enter (.conditional negated [] (some test) negated line false) line
  | .opening .loop => do
    let spec ← read (readLoop args)
    return w.enter (.loop spec) line
  | .opening .block => do
    let name ← read ((Builder.blockName args).mapError .fault)
    return w.enter (.block name) line
  | .closing c => w.close line c
  | .elseIf => w.nextBranch line keyword (read ((readCondition args).map some))
  | .otherwise => w.nextBranch line keyword (.ok none)
  | .include => do
    let ref ← read (readReference args)
    w.append (.mk (.include ref.args) line (some ref.raw) none)
  | .layout =>
    if w.tags.isEmpty then do
      let ref ← read (readReference args)
      if ref.args.isEmpty then return w.enter (.layout ref.raw) line
      else read (.error (.fault .layoutArguments))
    else read (.error (.fault .layoutNotAtTop))
  | .assign => do
    let (name, value) ← read (readAssignment args)
    w.append (.leaf (.assign name value) line)
  | .regionEnd r => fault (.unexpectedTag line r.closing)

/-- Closes what is open at the end of the source: layouts end there, every other tag is missing its
end. -/
def finishTags (w : Walk) : List (OpenTag × Nat) → Answer (List Node)
  | [] => do
    let (level, _) ← w.popLevel
    return level.reverse
  | (tag, line) :: tags =>
    match tag.construct? with
    | none => do
      let (body, w) ← { w with tags }.popLevel
      let w ← w.append (tag.node line body.reverse)
      finishTags w tags
    | some c => fault (.unclosed line c.name)

def finish (w : Walk) : Answer (List Node) :=
  w.finishTags w.tags

/-- Tries the tag that opens at an offset, up to the next closing delimiter, as the end of a region.
If it is, this gives the body before it, its dashes and the walk after it. -/
def endAt (w : Walk) (src : List Char) (region : Region) (tagStart : Nat) :
    Answer (Option ((List Char × Dashes) × Walk)) := do
  let here ← dropTo tagStart src
  match find ['%', '\x7d'] here with
  | none =>
    let (line, _) ← w.lineAt src tagStart
    fault (.unterminated line .tag)
  | some close =>
    let (inner, dashes) ← stripDashes (← slice (tagStart + 2) (tagStart + close) src)
    if trim inner = region.closing.toList then
      let body ← slice w.pos tagStart src
      return some ((body, dashes), { w with pos := tagStart + close + 2 })
    else return none

def takeUntil (w : Walk) (src : List Char) (region : Region) (start search : Nat) :
    Answer ((List Char × Dashes) × Walk) :=
  match _h : dropTo search src with
  | .error failure => .error failure
  | .ok remaining =>
    match find ['\x7b', '%'] remaining with
    | none => fault (.unclosed start region.name)
    | some rel => do
      match ← w.endAt src region (search + rel) with
      | some found => return found
      | none => takeUntil w src region start (search + rel + 2)
termination_by size src + 1 - search
decreasing_by
  rcases dropTo_eq_ok _h with ⟨passed, rfl, rfl⟩
  rw [size_append]
  omega

/-- Handles a tag whose body has been read. The walk stands after it. -/
def handleTag (w : Walk) (src inner : List Char) (line : Nat) : Answer Walk := do
  let (name, args) ← splitBody inner
  if name.isEmpty then fault (.invalid line "tag" .emptyTag)
  else
    match Region.ofName? name with
    | some .raw =>
      let ((body, dashes), w) ← w.takeUntil src .raw line w.pos
      let w ← w.appendText (if dashes.left then trimEnd body else body) line
      return { w with trimNext := dashes.right }
    | some .comment =>
      let ((_, dashes), w) ← w.takeUntil src .comment line w.pos
      return { w with trimNext := dashes.right }
    | none =>
      match Keyword.ofName? name with
      | none => fault (.unknownTag line (String.ofList name))
      | some keyword => w.tag line keyword args

def delimited (w : Walk) (src : List Char) : Answer Walk := do
  let (line, w) ← w.lineAt src w.pos
  let rest ← dropTo w.pos src
  if ['\x7b', '\x7b'].isPrefixOf rest then
    match ← bodyOf rest '\x7d' with
    | none => fault (.unterminated line .output)
    | some ((inner, dashes), last) =>
      let w ← w.applyDash dashes.left
      let output ← onTag line "output" (readOutput inner)
      let w ← w.append (.leaf (.output output) line)
      return { w with pos := w.pos + (last + 2), trimNext := dashes.right }
  else
    match ← bodyOf rest '%' with
    | none => fault (.unterminated line .tag)
    | some ((inner, dashes), last) =>
      let w ← w.applyDash dashes.left
      { w with pos := w.pos + (last + 2), trimNext := dashes.right }.handleTag src (trim inner) line

/-- The smaller one of two offsets, of which either may be missing. -/
def nearest : Option Nat → Option Nat → Option Nat
  | some a, some b => some (min a b)
  | some a, none => some a
  | none, b => b

/-- Goes over the text at the current offset and what stands after it. The walk ends if nothing
does. -/
def turn (w : Walk) (src : List Char) : Answer (Walk × Bool) := do
  let remaining ← dropTo w.pos src
  match nearest (find ['\x7b', '\x7b'] remaining) (find ['\x7b', '%'] remaining) with
  | none =>
    let (line, w) ← w.lineAt src w.pos
    let w ← w.appendText remaining line
    return (w, true)
  | some start =>
    let w ←
      if 0 < start then do
        let (line, w) ← w.lineAt src w.pos
        w.appendText (← takeTo start remaining) line
      else pure w
    let w ← { w with pos := w.pos + start }.delimited src
    return (w, false)

/-- Goes over the source from the current offset to its end. -/
def run (w : Walk) (src : List Char) : Answer (List Node) :=
  if w.pos < size src then
    match w.turn src with
    | .error failure => .error failure
    | .ok (next, true) => next.finish
    | .ok (next, false) => if w.pos < next.pos then next.run src else .error .breakdown
  else w.finish
termination_by size src - w.pos

def start : Walk :=
  ⟨0, 0, 1, [[]], [], false⟩

end Walk

def compile (source : String) : Answer (List Node) :=
  Walk.start.run source.toList

end TemplateSite.Offset
