import TemplateSite.Proofs.Template.Building
import TemplateSite.Proofs.Template.Shifting
import TemplateSite.Proofs.Template.Spelling

/-!
# Compiling without lines

Compiling writes lines down, in nodes and in faults, and never looks at them. A builder whose lines
are forgotten takes pieces without lines to the builder, or the fault, that is left when the lines
are forgotten afterwards.
-/
namespace TemplateSite
open Text

def CompileFault.unlined : CompileFault → CompileFault
  | unterminated _ delimiter => .unterminated 0 delimiter
  | unknownTag _ name => .unknownTag 0 name
  | unexpectedTag _ name => .unexpectedTag 0 name
  | unclosed _ name => .unclosed 0 name
  | invalid _ tag fault => .invalid 0 tag fault

def Piece.unlined : Piece → Piece
  | .text _ s => .text 0 s
  | .output _ dashes body => .output 0 dashes body
  | .tag _ dashes name args => .tag 0 dashes name args
  | .raw _ opening body closing => .raw 0 opening body closing
  | .comment _ opening closing => .comment 0 opening closing

def OpenTag.unlined : OpenTag → OpenTag
  | .conditional negated branches test negate _ isSealed =>
    .conditional negated (Node.unlinedAll branches) test negate 0 isSealed
  | .loop spec => .loop spec
  | .block name => .block name
  | .layout file => .layout file

def Frame.unlined (frame : Frame) : Frame :=
  ⟨frame.tag.unlined, 0, Node.unlinedAll frame.outer⟩

@[simp] theorem Piece.unlined_later (k : Nat) (p : Piece) : (p.later k).unlined = p.unlined := by
  cases p <;> rfl

theorem pieces_unlined (line line' : Nat) (s : List Char) :
    (pieces line s).1.map Piece.unlined = (pieces line' s).1.map Piece.unlined := by
  have fromTop (k : Nat) :
      (pieces k s).1.map Piece.unlined = (pieces 0 s).1.map Piece.unlined := by
    rw [← Nat.zero_add k, pieces_later]
    simp
  rw [fromTop line, fromTop line']

/-- Whether a source can be cut to its end does not depend on the line that it starts on. -/
theorem finished_of_pieces {line : Nat} {s : List Char} (h : (pieces line s).2 = .finished)
    (line' : Nat) : (pieces line' s).2 = .finished := by
  rw [← Nat.zero_add line, pieces_later] at h
  rw [← Nat.zero_add line', pieces_later]
  cases hs : (pieces 0 s).2 with
  | finished => rfl
  | failed failure => simp [hs, Stop.later] at h

namespace Node

@[simp] theorem unlinedAll_reverse (nodes : List Node) :
    unlinedAll nodes.reverse = (unlinedAll nodes).reverse := by
  induction nodes with
  | nil => simp
  | cons node nodes ih => simp [ih]

theorem text?_head_unlinedAll {nodes : List Node}
    (h : ∀ node ∈ nodes.head?, node.text? = none) :
    ∀ node ∈ (unlinedAll nodes).head?, node.text? = none := by
  cases nodes with
  | nil => simp
  | cons first rest =>
    rw [unlinedAll_cons]
    rintro _ ⟨⟩
    rw [text?_unlined]
    exact h first rfl

end Node

@[simp] theorem OpenTag.construct?_unlined (tag : OpenTag) :
    tag.unlined.construct? = tag.construct? := by
  cases tag <;> rfl

theorem unlined_branchNode (test : Option Expr) (negate : Bool) (line : Nat) (body : List Node) :
    (branchNode test negate line body).unlined =
      branchNode test negate 0 (Node.unlinedAll body) :=
  Node.unlined_container ..

theorem OpenTag.node_unlined (tag : OpenTag) (line : Nat) (body : List Node) :
    tag.unlined.node 0 (Node.unlinedAll body) = (tag.node line body).unlined := by
  cases tag with
  | layout file => simp [OpenTag.unlined, node, Node.unlined, Node.unlinedOf]
  | _ => simp [OpenTag.unlined, node, unlined_branchNode]

namespace Builder

def unlined (b : Builder) : Builder :=
  ⟨b.frames.map Frame.unlined, Node.unlinedAll b.siblings, b.trimNext⟩

def unlinedStep (outcome : Except CompileFault Builder) : Except CompileFault Builder :=
  (outcome.map unlined).mapError CompileFault.unlined

theorem joinText_unlined (line : Nat) (s : List Char) (siblings : List Node) :
    joinText 0 s (Node.unlinedAll siblings) = Node.unlinedAll (joinText line s siblings) := by
  by_cases hs : s.isEmpty = true
  · rw [joinText_of_isEmpty hs, joinText_of_isEmpty hs]
  · have hs : s.isEmpty = false := by simpa using hs
    rcases text_or_no_text siblings with ⟨t, l, file, children, rest, rfl⟩ | ht
    · rw [joinText_of_text hs, Node.unlinedAll_cons, Node.unlined, joinText_of_text hs,
        Node.unlinedAll_cons, Node.unlined]
    · rw [joinText_of_no_text hs line ht,
        joinText_of_no_text hs 0 (Node.text?_head_unlinedAll ht), Node.unlinedAll_cons,
        Node.unlined_leaf]

theorem trimLast_unlined (siblings : List Node) :
    trimLast (Node.unlinedAll siblings) = Node.unlinedAll (trimLast siblings) := by
  rcases text_or_no_text siblings with ⟨t, l, file, children, rest, rfl⟩ | ht
  · rw [Node.unlinedAll_cons, Node.unlined, trimLast_of_text, trimLast_of_text]
    split
    · rfl
    · rw [Node.unlinedAll_cons, Node.unlined]
  · rw [trimLast_of_no_text ht, trimLast_of_no_text (Node.text?_head_unlinedAll ht)]

theorem appendText_unlined (b : Builder) (line : Nat) (s : List Char) :
    b.unlined.appendText 0 s = (b.appendText line s).unlined :=
  congrArg (fun siblings => Builder.mk _ siblings _) (joinText_unlined line _ b.siblings)

theorem applyDashes_unlined (b : Builder) (dashes : Dashes) :
    b.unlined.applyDashes dashes = (b.applyDashes dashes).unlined := by
  rcases dashes with ⟨left, right⟩
  cases left with
  | false => rfl
  | true => exact congrArg (fun siblings => Builder.mk _ siblings _) (trimLast_unlined b.siblings)

theorem append_unlined (b : Builder) (node : Node) :
    b.unlined.append node.unlined = (b.append node).unlined := by
  simp [append, unlined]

theorem enter_unlined (b : Builder) (tag : OpenTag) (line : Nat) :
    b.unlined.enter tag.unlined 0 = (b.enter tag line).unlined := by
  simp [enter, unlined, Frame.unlined]

theorem onTag_unlined {α : Type} (line : Nat) (tag : String) (read : Except SyntaxFault α) :
    onTag 0 tag read = (onTag line tag read).mapError CompileFault.unlined := by
  cases read <;> rfl

theorem read_unlined {α : Type} {line : Nat} {tag : String} {read : Except SyntaxFault α}
    {there here : α → Except CompileFault Builder} (h : ∀ a, there a = unlinedStep (here a)) :
    (onTag 0 tag read >>= there) = unlinedStep (onTag line tag read >>= here) := by
  cases read with
  | error fault => rfl
  | ok a => exact h a

theorem nextBranch_unlined (b : Builder) (line : Nat) (keyword : Keyword)
    (test : Except CompileFault (Option Expr)) :
    b.unlined.nextBranch 0 keyword (test.mapError CompileFault.unlined) =
      unlinedStep (b.nextBranch line keyword test) := by
  rcases b with ⟨_ | ⟨⟨tag, start, outer⟩, frames⟩, siblings, trimNext⟩
  · rfl
  · cases tag with
    | conditional negated branches oldTest negate branchLine isSealed =>
      cases isSealed with
      | true => rfl
      | false =>
        cases test with
        | error e => rfl
        | ok found =>
          simp [nextBranch, unlined, Frame.unlined, OpenTag.unlined, unlinedStep, mapError_ok,
            Except.map, bind, Except.bind, pure, Except.pure, unlined_branchNode]
    | _ => rfl

theorem close_unlined (b : Builder) (line : Nat) (c : Construct) :
    b.unlined.close 0 c = unlinedStep (b.close line c) := by
  rcases b with ⟨_ | ⟨⟨tag, start, outer⟩, frames⟩, siblings, trimNext⟩
  · rfl
  · have hnode := tag.node_unlined start siblings.reverse
    rw [Node.unlinedAll_reverse] at hnode
    simp only [close, unlined, List.map_cons, Frame.unlined, OpenTag.construct?_unlined]
    split
    · simp [unlinedStep, Except.map, mapError_ok, unlined, hnode]
    · rfl

theorem layoutFile_unlined (b : Builder) (args : List Char) :
    b.unlined.layoutFile args = b.layoutFile args := by
  rcases b with ⟨frames, siblings, trimNext⟩
  cases frames <;> rfl

theorem tag_unlined (b : Builder) (line : Nat) (keyword : Keyword) (args : List Char) :
    b.unlined.tag 0 keyword args = unlinedStep (b.tag line keyword args) := by
  cases keyword with
  | opening c =>
    cases c with
    | conditional negated =>
      refine read_unlined fun test => ?_
      have h := b.enter_unlined (.conditional negated [] (some test) negated line false) line
      exact congrArg Except.ok h
    | loop => exact read_unlined fun spec => congrArg Except.ok (b.enter_unlined (.loop spec) line)
    | block =>
      exact read_unlined fun name => congrArg Except.ok (b.enter_unlined (.block name) line)
  | closing c => exact b.close_unlined line c
  | elseIf =>
    have h := b.nextBranch_unlined line .elseIf
      (onTag line Keyword.elseIf.name ((Expr.parseCondition args).map some))
    rwa [← onTag_unlined] at h
  | otherwise => exact b.nextBranch_unlined line _ (.ok none)
  | «include» =>
    refine read_unlined fun ref => ?_
    have h := b.append_unlined (.mk (.include ref.args) line (some ref.raw) none)
    rw [Node.unlined, Node.unlinedOf] at h
    exact congrArg Except.ok h
  | layout =>
    rw [tag, tag, layoutFile_unlined]
    exact read_unlined fun file => congrArg Except.ok (b.enter_unlined (.layout file) line)
  | assign =>
    refine read_unlined fun pair => ?_
    have h := b.append_unlined (.leaf (.assign pair.1 pair.2) line)
    rw [Node.unlined_leaf] at h
    exact congrArg Except.ok h
  | regionEnd r => rfl

theorem add_unlined (b : Builder) (p : Piece) :
    b.unlined.add p.unlined = unlinedStep (b.add p) := by
  cases p with
  | text line s => exact congrArg Except.ok (b.appendText_unlined line s)
  | output line dashes body =>
    refine read_unlined fun o => ?_
    have h := (b.applyDashes dashes).append_unlined (.leaf (.output o) line)
    rw [Node.unlined_leaf, ← applyDashes_unlined] at h
    exact congrArg Except.ok h
  | tag line dashes name args =>
    rw [Piece.unlined, add, add]
    split
    · rfl
    · split
      · rfl
      · rw [applyDashes_unlined]
        exact tag_unlined _ line _ args
  | raw line opening body closing =>
    have h := (b.applyDashes opening).appendText_unlined line
      (if closing.left then trimEnd body else body)
    rw [← applyDashes_unlined] at h
    exact congrArg (fun next : Builder => Except.ok { next with trimNext := closing.right }) h
  | comment line opening closing =>
    exact congrArg Except.ok (b.applyDashes_unlined ⟨opening.left, closing.right⟩)

theorem addAll_unlined (b : Builder) (ps : List Piece) :
    b.unlined.addAll (ps.map Piece.unlined) = unlinedStep (b.addAll ps) := by
  induction ps generalizing b with
  | nil => rfl
  | cons p ps ih =>
    rw [List.map_cons, addAll_cons, addAll_cons, add_unlined]
    cases b.add p with
    | error e => rfl
    | ok next => exact ih next

/-- What is compiled, or why it is not, with all lines forgotten. -/
def unlinedOutcome (outcome : Except CompileFault (List Node)) : Except CompileFault (List Node) :=
  (outcome.map Node.unlinedAll).mapError CompileFault.unlined

theorem finishFrames_unlined (siblings : List Node) (frames : List Frame) :
    finishFrames (Node.unlinedAll siblings) (frames.map Frame.unlined) =
      unlinedOutcome (finishFrames siblings frames) := by
  induction frames generalizing siblings with
  | nil =>
    rw [List.map_nil, finishFrames, finishFrames, ← Node.unlinedAll_reverse]
    rfl
  | cons frame frames ih =>
    have hnode := frame.tag.node_unlined frame.line siblings.reverse
    rw [Node.unlinedAll_reverse] at hnode
    rw [List.map_cons, finishFrames, finishFrames]
    simp only [Frame.unlined, OpenTag.construct?_unlined]
    split
    · rw [hnode, ← Node.unlinedAll_cons, ih]
    · rfl

end Builder
end TemplateSite
