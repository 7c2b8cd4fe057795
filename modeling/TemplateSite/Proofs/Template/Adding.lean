import TemplateSite.Proofs.Success
import TemplateSite.Template.Compile

/-!
# What adding a piece does

Adding a piece succeeds in a few ways only. They are listed here once, with everything that was read
on the way, and all that is proved about compiled templates goes by these cases.
-/
namespace TemplateSite
namespace Builder

/-- The ways in which a piece is added to a builder. -/
inductive Adds (b : Builder) : Piece → Builder → Prop where
  | text (line : Nat) (s : List Char) : Adds b (.text line s) (b.appendText line s)
  | output {o : Output} (line : Nat) (dashes : Dashes) (body : List Char)
      (read : Output.parse body = .ok o) :
      Adds b (.output line dashes body) ((b.applyDashes dashes).append (.leaf (.output o) line))
  | assign {args : List Char} {target : String} {value : Output} (line : Nat) (dashes : Dashes)
      (name : List Char) (keyword : Keyword.ofName? name = some .assign)
      (read : Output.parseAssignment args = .ok (target, value)) :
      Adds b (.tag line dashes name args)
        ((b.applyDashes dashes).append (.leaf (.assign target value) line))
  | include {args : List Char} {ref : FileRef} (line : Nat) (dashes : Dashes) (name : List Char)
      (keyword : Keyword.ofName? name = some .include) (read : FileRef.parse args = .ok ref) :
      Adds b (.tag line dashes name args)
        ((b.applyDashes dashes).append (.mk (.include ref.args) line (some ref.raw) none))
  | conditional {args : List Char} {test : Expr} (line : Nat) (dashes : Dashes) (negated : Bool)
      (name : List Char) (keyword : Keyword.ofName? name = some (.opening (.conditional negated)))
      (read : Expr.parseCondition args = .ok test) :
      Adds b (.tag line dashes name args)
        ((b.applyDashes dashes).enter (.conditional negated [] (some test) negated line false) line)
  | loop {args : List Char} {spec : LoopSpec} (line : Nat) (dashes : Dashes) (name : List Char)
      (keyword : Keyword.ofName? name = some (.opening .loop))
      (read : LoopSpec.parse args = .ok spec) :
      Adds b (.tag line dashes name args) ((b.applyDashes dashes).enter (.loop spec) line)
  | block {args : List Char} {label : String} (line : Nat) (dashes : Dashes) (name : List Char)
      (keyword : Keyword.ofName? name = some (.opening .block))
      (read : blockName args = .ok label) :
      Adds b (.tag line dashes name args) ((b.applyDashes dashes).enter (.block label) line)
  | layout {args : List Char} {ref : FileRef} (line : Nat) (dashes : Dashes) (name : List Char)
      (keyword : Keyword.ofName? name = some .layout) (top : b.frames = [])
      (read : FileRef.parse args = .ok ref) (bare : ref.args = []) :
      Adds b (.tag line dashes name args) ((b.applyDashes dashes).enter (.layout ref.raw) line)
  | elseIf {args : List Char} {test : Expr} {negated negate : Bool} {branches outer : List Node}
      {oldTest : Option Expr} {branchLine start : Nat} {frames : List Frame}
      (line : Nat) (dashes : Dashes) (name : List Char)
      (keyword : Keyword.ofName? name = some .elseIf) (read : Expr.parseCondition args = .ok test)
      (frame : b.frames =
        ⟨.conditional negated branches oldTest negate branchLine false, start, outer⟩ :: frames) :
      Adds b (.tag line dashes name args)
        ⟨⟨.conditional negated
            (branchNode oldTest negate branchLine (b.applyDashes dashes).siblings.reverse ::
              branches) (some test) false line false, start, outer⟩ :: frames, [], dashes.right⟩
  | otherwise {args : List Char} {negated negate : Bool} {branches outer : List Node}
      {oldTest : Option Expr} {branchLine start : Nat} {frames : List Frame}
      (line : Nat) (dashes : Dashes) (name : List Char)
      (keyword : Keyword.ofName? name = some .otherwise)
      (frame : b.frames =
        ⟨.conditional negated branches oldTest negate branchLine false, start, outer⟩ :: frames) :
      Adds b (.tag line dashes name args)
        ⟨⟨.conditional negated
            (branchNode oldTest negate branchLine (b.applyDashes dashes).siblings.reverse ::
              branches) none false line true, start, outer⟩ :: frames, [], dashes.right⟩
  | closing {args : List Char} {tag : OpenTag} {start : Nat} {outer : List Node}
      {frames : List Frame} (line : Nat) (dashes : Dashes) (c : Construct) (name : List Char)
      (keyword : Keyword.ofName? name = some (.closing c))
      (frame : b.frames = ⟨tag, start, outer⟩ :: frames) (construct : tag.construct? = some c) :
      Adds b (.tag line dashes name args)
        ⟨frames, tag.node start (b.applyDashes dashes).siblings.reverse :: outer, dashes.right⟩
  | raw (line : Nat) (opening : Dashes) (body : List Char) (closing : Dashes) :
      Adds b (.raw line opening body closing)
        { (b.applyDashes opening).appendText line
            (if closing.left then Text.trimEnd body else body) with trimNext := closing.right }
  | comment (line : Nat) (opening closing : Dashes) :
      Adds b (.comment line opening closing) (b.applyDashes ⟨opening.left, closing.right⟩)

@[simp] theorem applyDashes_frames (b : Builder) (dashes : Dashes) :
    (b.applyDashes dashes).frames = b.frames := rfl

theorem add_tag {b : Builder} {keyword : Keyword} {name : List Char}
    (h : Keyword.ofName? name = some keyword) (line : Nat) (dashes : Dashes) (args : List Char) :
    b.add (.tag line dashes name args) = (b.applyDashes dashes).tag line keyword args := by
  have nonempty : name.isEmpty = false := by
    cases name with
    | nil => cases h
    | cons c name => rfl
  rw [add, nonempty, h]
  rfl

theorem onTag_eq_ok_iff {α : Type} {line : Nat} {tag : String} {read : Except SyntaxFault α}
    {a : α} : onTag line tag read = .ok a ↔ read = .ok a :=
  mapError_eq_ok_iff

theorem layoutFile_eq_ok {b : Builder} {args : List Char} {file : String}
    (h : b.layoutFile args = .ok file) :
    b.frames = [] ∧ ∃ ref, FileRef.parse args = .ok ref ∧ ref.args = [] ∧ ref.raw = file := by
  rw [layoutFile] at h
  split at h
  · rename_i top
    rcases bind_eq_ok_iff.mp h with ⟨ref, read, h⟩
    split at h
    · rename_i bare
      cases h
      exact ⟨List.isEmpty_iff.mp top, ref, read, List.isEmpty_iff.mp bare, rfl⟩
    · cases h
  · cases h

theorem close_eq_ok {b b' : Builder} {line : Nat} {c : Construct} (h : b.close line c = .ok b') :
    ∃ tag start outer frames, b.frames = ⟨tag, start, outer⟩ :: frames ∧
      tag.construct? = some c ∧
      b' = ⟨frames, tag.node start b.siblings.reverse :: outer, b.trimNext⟩ := by
  rw [close] at h
  split at h
  · rename_i tag start outer frames frame
    split at h
    · rename_i construct
      cases h
      exact ⟨tag, start, outer, frames, frame, construct, rfl⟩
    · cases h
  · cases h

theorem nextBranch_eq_ok {b b' : Builder} {line : Nat} {keyword : Keyword}
    {test : Except CompileFault (Option Expr)} (h : b.nextBranch line keyword test = .ok b') :
    ∃ negated branches oldTest negate branchLine start outer frames found,
      b.frames =
        ⟨.conditional negated branches oldTest negate branchLine false, start, outer⟩ :: frames ∧
      test = .ok found ∧
      b' = ⟨⟨.conditional negated (branchNode oldTest negate branchLine b.siblings.reverse ::
        branches) found false line (keyword == .otherwise), start, outer⟩ :: frames, [],
        b.trimNext⟩ := by
  rw [nextBranch] at h
  split at h
  · rename_i negated branches oldTest negate branchLine start outer frames frame
    rcases bind_eq_ok_iff.mp h with ⟨found, read, h⟩
    cases h
    exact ⟨negated, branches, oldTest, negate, branchLine, start, outer, frames, found, frame,
      read, rfl⟩
  · cases h

theorem adds_of_tag {b b' : Builder} {line : Nat} {dashes : Dashes} {keyword : Keyword}
    {name args : List Char} (hk : Keyword.ofName? name = some keyword)
    (h : (b.applyDashes dashes).tag line keyword args = .ok b') :
    Adds b (.tag line dashes name args) b' := by
  cases keyword with
  | opening c =>
    cases c with
    | conditional negated =>
      rcases bind_eq_ok_iff.mp h with ⟨test, read, h⟩
      cases h
      exact .conditional line dashes negated name hk (onTag_eq_ok_iff.mp read)
    | loop =>
      rcases bind_eq_ok_iff.mp h with ⟨spec, read, h⟩
      cases h
      exact .loop line dashes name hk (onTag_eq_ok_iff.mp read)
    | block =>
      rcases bind_eq_ok_iff.mp h with ⟨label, read, h⟩
      cases h
      exact .block line dashes name hk (onTag_eq_ok_iff.mp read)
  | closing c =>
    rcases close_eq_ok h with ⟨tag, start, outer, frames, frame, construct, rfl⟩
    exact .closing line dashes c name hk frame construct
  | elseIf =>
    obtain ⟨negated, branches, oldTest, negate, branchLine, start, outer, frames, found, frame,
      answer, rfl⟩ := nextBranch_eq_ok h
    rcases map_eq_ok_iff.mp (onTag_eq_ok_iff.mp answer) with ⟨test, read, rfl⟩
    exact .elseIf line dashes name hk read frame
  | otherwise =>
    obtain ⟨negated, branches, oldTest, negate, branchLine, start, outer, frames, found, frame,
      read, rfl⟩ := nextBranch_eq_ok h
    cases read
    exact .otherwise line dashes name hk frame
  | «include» =>
    rcases bind_eq_ok_iff.mp h with ⟨ref, read, h⟩
    cases h
    exact .include line dashes name hk (onTag_eq_ok_iff.mp read)
  | layout =>
    rcases bind_eq_ok_iff.mp h with ⟨file, answer, h⟩
    rcases layoutFile_eq_ok (onTag_eq_ok_iff.mp answer) with ⟨top, ref, read, bare, rfl⟩
    cases h
    exact .layout line dashes name hk top read bare
  | assign =>
    rcases bind_eq_ok_iff.mp h with ⟨⟨target, value⟩, read, h⟩
    cases h
    exact .assign line dashes name hk (onTag_eq_ok_iff.mp read)
  | regionEnd r => cases h

/-- Every piece that is accepted is added in one of the ways. -/
theorem adds_of_add {b b' : Builder} {p : Piece} (h : b.add p = .ok b') : Adds b p b' := by
  cases p with
  | text line s =>
    cases h
    exact .text line s
  | output line dashes body =>
    rcases bind_eq_ok_iff.mp h with ⟨o, read, h⟩
    cases h
    exact .output line dashes body (onTag_eq_ok_iff.mp read)
  | tag line dashes name args =>
    rw [add] at h
    split at h
    · cases h
    · split at h
      · cases h
      · rename_i hk
        exact adds_of_tag hk h
  | raw line opening body closing =>
    cases h
    exact .raw line opening body closing
  | comment line opening closing =>
    cases h
    exact .comment line opening closing

end Builder
end TemplateSite
