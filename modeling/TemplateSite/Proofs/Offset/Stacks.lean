import TemplateSite.Proofs.Offset.Walk
import TemplateSite.Proofs.Template.Building

/-!
# The stacks of a walk

A walk keeps the siblings around the open tags on a stack of levels and the tags on another one; a
builder keeps them together. On the stacks of a builder every tag does what it does to the builder,
and no stack is ever found empty.
-/
namespace TemplateSite.Offset
open TemplateSite.Text

/-- A walk with the stacks of a builder that stands after `before`. The line counter belongs to the
place after `counted`. -/
def place (b : Builder) (before counted : List Char) : Walk where
  pos := size before
  linePos := size counted
  line := 1 + lineEnds counted
  levels := b.siblings :: b.frames.map Frame.outer
  tags := b.frames.map fun frame => (frame.tag, frame.line)
  trimNext := b.trimNext

variable (before counted : List Char)

/-- What a builder does, done by a walk that stays where it is. -/
def placed (outcome : Except CompileFault Builder) : Answer Walk :=
  (outcome.map fun b => place b before counted).mapError .fault

theorem append_place (b : Builder) (node : Node) :
    (place b before counted).append node = .ok (place (b.append node) before counted) := rfl

/-- Wherever a walk stands, it adds a text as the builder does. -/
theorem appendText_moved (b : Builder) (s : List Char) (line pos : Nat) :
    { place b before counted with pos }.appendText s line =
      .ok { place (b.appendText line s) before counted with pos } := by
  rw [Walk.appendText, Builder.appendText]
  simp only
  by_cases hs : (if b.trimNext = true then trimStart s else s).isEmpty = true
  · have ht : (if (place b before counted).trimNext = true then trimStart s else s).isEmpty = true :=
      hs
    rw [if_pos ht, Builder.joinText_of_isEmpty hs]
    rfl
  · have ht : ¬ (if (place b before counted).trimNext = true then trimStart s else s).isEmpty = true :=
      hs
    rw [if_neg ht]
    rfl

theorem appendText_place (b : Builder) (s : List Char) (line : Nat) :
    (place b before counted).appendText s line =
      .ok (place (b.appendText line s) before counted) :=
  appendText_moved before counted b s line (size before)

theorem trimLast_place (b : Builder) : (place b before counted).trimLast =
    .ok (place { b with siblings := Builder.trimLast b.siblings } before counted) := by
  rcases b with ⟨frames, siblings, trimNext⟩
  rcases Builder.text_or_no_text siblings with ⟨t, line, file, children, rest, rfl⟩ | ht
  · rcases eq_append_trimEnd t.toList with ⟨after, -, hs⟩
    have htake : takeTo (size (trimEnd t.toList)) t.toList = (.ok (trimEnd t.toList) : Answer _) := by
      have h := takeTo_size (E := CompileFault) (trimEnd t.toList) after
      rwa [← hs] at h
    rw [Builder.trimLast_of_text]
    simp only [Walk.trimLast, Walk.popLevel, place, bind, Except.bind, htake]
    rfl
  · rw [Builder.trimLast_of_no_text ht]
    rcases siblings with _ | ⟨⟨kind, line, file, children⟩, rest⟩
    · rfl
    · cases kind with
      | text t => exact absurd (ht _ rfl) (by simp [Node.text?])
      | _ => rfl

theorem applyDash_place (b : Builder) (left : Bool) :
    (place b before counted).applyDash left = .ok (place { b with
      siblings := if left then Builder.trimLast b.siblings else b.siblings } before counted) := by
  cases left with
  | false => rfl
  | true => exact trimLast_place before counted b

theorem onTag_fault {α : Type} (line : Nat) (tag : String) (read : Except SyntaxFault α) :
    onTag line tag (read.mapError .fault) = (Builder.onTag line tag read).mapError .fault := by
  cases read <;> rfl

/-- A step that goes by what was read from a tag. -/
theorem read_placed {α : Type} {line : Nat} {tag : String} {read : Except SyntaxFault α}
    {walk : α → Answer Walk} {build : α → Except CompileFault Builder}
    (h : ∀ a, walk a = placed before counted (build a)) :
    (onTag line tag (read.mapError .fault) >>= walk) =
      placed before counted (Builder.onTag line tag read >>= build) := by
  cases read with
  | error e => rfl
  | ok a => exact h a

theorem nextBranch_place (b : Builder) (line : Nat) (keyword : Keyword)
    (test : Except CompileFault (Option Expr)) :
    (place b before counted).nextBranch line keyword (test.mapError .fault) =
      placed before counted (b.nextBranch line keyword test) := by
  rcases b with ⟨frames, siblings, trimNext⟩
  rcases frames with _ | ⟨⟨tag, start, outer⟩, frames⟩
  · rfl
  · cases tag with
    | conditional negated branches oldTest negate branchLine isSealed =>
      cases isSealed with
      | true => rfl
      | false => cases test <;> rfl
    | _ => rfl

theorem close_place (b : Builder) (line : Nat) (c : Construct) :
    (place b before counted).close line c = placed before counted (b.close line c) := by
  rcases b with ⟨frames, siblings, trimNext⟩
  rcases frames with _ | ⟨⟨tag, start, outer⟩, frames⟩
  · rfl
  · rw [Walk.close, Builder.close]
    simp only [place, List.map_cons, List.head?_cons, Option.bind_some]
    split
    · rfl
    · rfl

theorem layout_place (b : Builder) (line : Nat) (args : List Char) :
    (place b before counted).tag line .layout args =
      placed before counted (b.tag line .layout args) := by
  rcases b with ⟨frames, siblings, trimNext⟩
  cases frames with
  | cons frame frames => rfl
  | nil =>
    rw [Walk.tag, Builder.tag]
    simp only [readReference_eq, Builder.layoutFile]
    cases FileRef.parse args with
    | error e => rfl
    | ok ref =>
      rcases ref with ⟨raw, args⟩
      cases args <;> rfl

theorem tag_place (b : Builder) (line : Nat) (keyword : Keyword) (args : List Char) :
    (place b before counted).tag line keyword args =
      placed before counted (b.tag line keyword args) := by
  cases keyword with
  | opening c =>
    cases c with
    | conditional negated =>
      rw [Walk.tag, Builder.tag]
      simp only [readCondition_eq]
      exact read_placed before counted fun _ => rfl
    | loop =>
      rw [Walk.tag, Builder.tag]
      simp only [readLoop_eq]
      exact read_placed before counted fun _ => rfl
    | block => exact read_placed before counted fun _ => rfl
  | closing c => exact close_place before counted b line c
  | elseIf =>
    rw [Walk.tag, Builder.tag]
    simp only [readCondition_eq]
    rw [← nextBranch_place, ← onTag_fault]
    cases Expr.parseCondition args <;> rfl
  | otherwise => exact nextBranch_place before counted b line _ (.ok none)
  | «include» =>
    rw [Walk.tag, Builder.tag]
    simp only [readReference_eq]
    exact read_placed before counted fun _ => rfl
  | layout => exact layout_place before counted b line args
  | assign =>
    rw [Walk.tag, Builder.tag]
    simp only [readAssignment_eq]
    exact read_placed before counted fun _ => rfl
  | regionEnd r => rfl

theorem finishTags_eq {w : Walk} {siblings : List Node} {frames : List Frame}
    (h : w.levels = siblings :: frames.map Frame.outer) :
    w.finishTags (frames.map fun frame => (frame.tag, frame.line)) =
      (Builder.finishFrames siblings frames).mapError .fault := by
  induction frames generalizing w siblings with
  | nil =>
    rw [List.map_nil, Walk.finishTags, Walk.popLevel, h]
    rfl
  | cons frame frames ih =>
    rw [List.map_cons, Walk.finishTags, Builder.finishFrames]
    cases frame.tag.construct? with
    | none =>
      simp only [Walk.popLevel, h]
      exact ih rfl
    | some c => rfl

theorem finish_place (b : Builder) :
    (place b before counted).finish = b.finish.mapError .fault :=
  finishTags_eq rfl

end TemplateSite.Offset
