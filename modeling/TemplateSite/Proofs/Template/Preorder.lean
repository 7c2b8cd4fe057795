import TemplateSite.Proofs.Template.Regular
import TemplateSite.Proofs.Template.Transcript

/-!
# Pre-order of compiled trees

Nesting loses, repeats and reorders nothing: the nodes of a compiled tree in pre-order are the
transcript of the pieces of its source. The invariant says which entries a builder has made so far
and which text is under way.
-/
namespace TemplateSite
open Text

/-- The text under way among siblings, the latest first. -/
def textRun : List Node → TextRun
  | .mk (.text t) line _ _ :: _ => some (line, t.toList)
  | _ => none

/-- The siblings before the text under way. -/
def settled : List Node → List Node
  | .mk (.text _) _ _ _ :: rest => rest
  | nodes => nodes

theorem textRun_settled_of_no_text {nodes : List Node}
    (h : ∀ node ∈ nodes.head?, node.text? = none) :
    textRun nodes = none ∧ settled nodes = nodes := by
  cases nodes with
  | nil => exact ⟨rfl, rfl⟩
  | cons node rest =>
    rcases node with ⟨kind, line, file, children⟩
    cases kind with
    | text t => exact absurd (h _ rfl) (by simp [Node.text?])
    | _ => exact ⟨rfl, rfl⟩

/-- Regular siblings either end in a text, which has no reference and no nodes inside and before
which no text stands, or they do not. -/
theorem Node.RegularAll.text_or_no_text {nodes : List Node} (h : RegularAll nodes) :
    (∃ t line rest, nodes = .leaf (.text t) line :: rest ∧ t ≠ "" ∧
      ∀ node ∈ rest.head?, node.text? = none) ∨ ∀ node ∈ nodes.head?, node.text? = none := by
  rcases Builder.text_or_no_text nodes with ⟨t, line, file, children, rest, rfl⟩ | ht
  · cases h.each _ (List.mem_cons_self ..) with
    | text _ nonempty => exact Or.inl ⟨t, line, rest, rfl, nonempty, h.after_text⟩
  · exact Or.inr ht

/-- The entries of siblings are those before the text under way and that text. -/
theorem entriesAll_reverse {nodes : List Node} (h : Node.RegularAll nodes) :
    Node.entriesAll nodes.reverse =
      Node.entriesAll (settled nodes).reverse ++ (textRun nodes).entries := by
  rcases h.text_or_no_text with ⟨t, line, rest, rfl, -, -⟩ | ht
  · rw [List.reverse_cons, Node.entriesAll_append]
    simp [settled, textRun, Node.leaf, TextRun.entries, Node.entries, Node.entriesOf]
  · rcases textRun_settled_of_no_text ht with ⟨run, front⟩
    rw [run, front]
    simp [TextRun.entries]

theorem joinText_textRun (line : Nat) (s : List Char) (nodes : List Node) :
    textRun (Builder.joinText line s nodes) = (textRun nodes).join line s ∧
      settled (Builder.joinText line s nodes) = settled nodes := by
  by_cases hs : s.isEmpty = true
  · rw [Builder.joinText_of_isEmpty hs, TextRun.join.eq_def, if_pos hs]
    exact ⟨rfl, rfl⟩
  · rw [TextRun.join.eq_def, if_neg hs]
    have hs : s.isEmpty = false := by simpa using hs
    rcases Builder.text_or_no_text nodes with ⟨t, l, file, children, rest, rfl⟩ | ht
    · rw [Builder.joinText_of_text hs]
      simp [textRun, settled]
    · rcases textRun_settled_of_no_text ht with ⟨run, front⟩
      rw [Builder.joinText_of_no_text hs line ht, run, front]
      simp [textRun, settled, Node.leaf]

theorem trimLast_textRun {nodes : List Node} (h : Node.RegularAll nodes) (right : Bool) :
    textRun (Builder.trimLast nodes) = (textRun nodes).before ⟨true, right⟩ ∧
      settled (Builder.trimLast nodes) = settled nodes := by
  rw [TextRun.before, if_pos rfl]
  rcases h.text_or_no_text with ⟨t, line, rest, rfl, -, hr⟩ | ht
  · rw [Node.leaf, Builder.trimLast_of_text]
    by_cases hs : (trimEnd t.toList).isEmpty = true
    · rcases textRun_settled_of_no_text hr with ⟨run, front⟩
      rw [if_pos hs, run, front]
      simpa [textRun, settled] using hs
    · rw [if_neg hs]
      simpa [textRun, settled] using hs
  · rw [Builder.trimLast_of_no_text ht, (textRun_settled_of_no_text ht).1]
    exact ⟨rfl, rfl⟩

/-- The entries of an open tag, without those of the nodes inside the part under way. -/
def OpenTag.entries (line : Nat) : OpenTag → List Entry
  | .conditional _ branches test negate branchLine _ =>
    ⟨.conditional, line, none⟩ ::
      (Node.entriesAll branches.reverse ++ [⟨.branch test negate, branchLine, none⟩])
  | .loop spec => [⟨.loop spec, line, none⟩]
  | .block name => [⟨.block name, line, none⟩]
  | .layout file => [⟨.layout, line, some file⟩]

theorem OpenTag.entries_node (tag : OpenTag) (line : Nat) (nodes : List Node) :
    (tag.node line nodes).entries = tag.entries line ++ Node.entriesAll nodes := by
  cases tag with
  | conditional negated branches test negate branchLine sealed =>
    simp [node, entries, branchNode]
  | loop spec => simp [node, entries]
  | block name => simp [node, entries]
  | layout file => simp [node, entries, Node.entries, Node.entriesOf]

namespace Builder

/-- The entries of open tags and of the siblings around them. -/
def framesEntries : List Frame → List Entry
  | [] => []
  | frame :: frames =>
    framesEntries frames ++ (Node.entriesAll frame.outer.reverse ++ frame.tag.entries frame.line)

/-- The entries that are built, but for the text under way. -/
def entries (b : Builder) : List Entry :=
  framesEntries b.frames ++ Node.entriesAll (settled b.siblings).reverse

theorem entries_cons {node : Node} (ht : node.text? = none) (frames : List Frame)
    (siblings : List Node) (trimNext : Bool) :
    entries ⟨frames, node :: siblings, trimNext⟩ =
      framesEntries frames ++ Node.entriesAll siblings.reverse ++ node.entries := by
  have hs : ∀ other ∈ (node :: siblings).head?, other.text? = none := by
    intro other ho
    cases ho
    exact ht
  rw [entries, (textRun_settled_of_no_text hs).2, List.reverse_cons, Node.entriesAll_append,
    Node.entriesAll_cons, Node.entriesAll_nil, List.append_nil, List.append_assoc]

theorem entries_enter (b : Builder) (tag : OpenTag) (line : Nat) :
    (b.enter tag line).entries =
      framesEntries b.frames ++ Node.entriesAll b.siblings.reverse ++ tag.entries line := by
  simp [entries, enter, settled, framesEntries]

theorem finishFrames_entries {frames : List Frame} {siblings nodes : List Node}
    (h : finishFrames siblings frames = .ok nodes) :
    Node.entriesAll nodes = framesEntries frames ++ Node.entriesAll siblings.reverse := by
  induction frames generalizing siblings with
  | nil =>
    cases h
    rfl
  | cons frame frames ih =>
    rw [finishFrames] at h
    split at h
    · rw [ih h, framesEntries, List.reverse_cons, Node.entriesAll_append, Node.entriesAll_cons,
        OpenTag.entries_node]
      simp
    · cases h

theorem appendText_textRun (b : Builder) (line : Nat) (s : List Char) :
    textRun (b.appendText line s).siblings =
        (textRun b.siblings).join line (if b.trimNext then trimStart s else s) ∧
      settled (b.appendText line s).siblings = settled b.siblings :=
  joinText_textRun line _ b.siblings

theorem Regular.applyDashes_textRun {b : Builder} (h : b.Regular) (dashes : Dashes) :
    textRun (b.applyDashes dashes).siblings = (textRun b.siblings).before dashes ∧
      settled (b.applyDashes dashes).siblings = settled b.siblings := by
  rcases dashes with ⟨left, right⟩
  cases left with
  | true => exact trimLast_textRun h.siblings right
  | false => exact ⟨rfl, rfl⟩

/-- The entries before an output or a tag are those that are built and the text under way, as the
dashes leave it. -/
theorem Regular.entries_applyDashes {b : Builder} (h : b.Regular) (dashes : Dashes) :
    framesEntries b.frames ++ Node.entriesAll (b.applyDashes dashes).siblings.reverse =
      b.entries ++ ((textRun b.siblings).before dashes).entries := by
  rcases h.applyDashes_textRun dashes with ⟨hr, hs⟩
  rw [entriesAll_reverse (h.applyDashes dashes).siblings, hr, hs, entries, List.append_assoc]

/-- What a tag gives is put after what is built, the text under way included, which ends. -/
theorem Adds.gives {b b' : Builder} {line : Nat} {dashes : Dashes} {name args : List Char}
    (h : Adds b (.tag line dashes name args) b') :
    ∃ keyword given, Keyword.ofName? name = some keyword ∧ keyword.Gives line args given ∧
      textRun b'.siblings = none ∧ b'.trimNext = dashes.right ∧
      b'.entries = framesEntries b.frames ++
        Node.entriesAll (b.applyDashes dashes).siblings.reverse ++ given := by
  cases h with
  | assign _ _ _ keyword read =>
    refine ⟨_, _, keyword, .assign read, rfl, rfl, ?_⟩
    exact entries_cons rfl _ _ _
  | «include» _ _ _ keyword read =>
    refine ⟨_, _, keyword, .include read, rfl, rfl, ?_⟩
    exact entries_cons rfl _ _ _
  | conditional _ _ negated _ keyword read =>
    refine ⟨_, _, keyword, .conditional negated read, rfl, rfl, ?_⟩
    rw [entries_enter]
    rfl
  | loop _ _ _ keyword read =>
    refine ⟨_, _, keyword, .loop read, rfl, rfl, ?_⟩
    rw [entries_enter]
    rfl
  | block _ _ _ keyword read =>
    refine ⟨_, _, keyword, .block read, rfl, rfl, ?_⟩
    rw [entries_enter]
    rfl
  | layout _ _ _ keyword top read bare =>
    refine ⟨_, _, keyword, .layout read, rfl, rfl, ?_⟩
    rw [entries_enter]
    rfl
  | elseIf _ _ _ keyword read frame =>
    refine ⟨_, _, keyword, .elseIf read, rfl, rfl, ?_⟩
    simp [entries, frame, settled, framesEntries, OpenTag.entries, branchNode]
  | otherwise _ _ _ keyword frame =>
    refine ⟨_, _, keyword, .otherwise, rfl, rfl, ?_⟩
    simp [entries, frame, settled, framesEntries, OpenTag.entries, branchNode]
  | @closing _ tag start outer frames _ _ c _ keyword frame construct =>
    have ht : (tag.node start (b.applyDashes dashes).siblings.reverse).text? = none := by
      cases tag <;> rfl
    have hr : ∀ node ∈ (tag.node start (b.applyDashes dashes).siblings.reverse :: outer).head?,
        node.text? = none := by
      intro node hn
      cases hn
      exact ht
    refine ⟨_, _, keyword, .closing c, (textRun_settled_of_no_text hr).1, rfl, ?_⟩
    rw [entries_cons ht, frame, framesEntries, OpenTag.entries_node]
    simp

/-- The transcript of a piece and those after it, from the builder before it, is what the piece adds
and the transcript from the builder after it. -/
theorem Regular.transcript {b b' : Builder} {p : Piece} {ps : List Piece} {es : List Entry}
    (h : b.Regular) (ha : Adds b p b')
    (more : Transcript (textRun b'.siblings) b'.trimNext ps es) :
    ∃ found, Transcript (textRun b.siblings) b.trimNext (p :: ps) found ∧
      b.entries ++ found = b'.entries ++ es := by
  cases p with
  | text line s =>
    cases ha with
    | text =>
      rcases appendText_textRun b line s with ⟨hr, hs⟩
      rw [hr] at more
      refine ⟨es, .text line s more, ?_⟩
      rw [entries, entries, hs]
      rfl
  | output line dashes body =>
    cases ha with
    | output _ _ _ read =>
      refine ⟨_, .output b.trimNext line dashes body read more, ?_⟩
      rw [← List.append_assoc, ← h.entries_applyDashes, Builder.append, entries_cons]
      · exact (List.append_assoc _ _ _).symm
      · rfl
  | tag line dashes name args =>
    rcases ha.gives with ⟨keyword, given, known, gives, hr, ht, hb⟩
    rw [hr, ht] at more
    refine ⟨_, .tag b.trimNext line dashes known gives more, ?_⟩
    rw [hb, ← List.append_assoc, ← h.entries_applyDashes, List.append_assoc, List.append_assoc,
      List.append_assoc]
  | raw line opening body closing =>
    cases ha with
    | raw =>
      rcases h.applyDashes_textRun opening with ⟨hd, hs⟩
      obtain ⟨hr, ha⟩ := appendText_textRun (b.applyDashes opening) line
        (if closing.left then trimEnd body else body)
      rw [hr, hd] at more
      refine ⟨es, .raw b.trimNext line opening body closing more, ?_⟩
      rw [entries, entries, ha, hs]
      rfl
  | comment line opening closing =>
    cases ha with
    | comment =>
      rcases h.applyDashes_textRun ⟨opening.left, closing.right⟩ with ⟨hd, hs⟩
      rw [hd] at more
      refine ⟨es, .comment b.trimNext line opening closing more, ?_⟩
      rw [entries, entries, hs]
      rfl

theorem Regular.transcript_addAll {b last : Builder} {ps : List Piece} {nodes : List Node}
    (h : b.Regular) (hs : b.addAll ps = .ok last) (hf : last.finish = .ok nodes) :
    ∃ es, Transcript (textRun b.siblings) b.trimNext ps es ∧
      Node.entriesAll nodes = b.entries ++ es := by
  induction ps generalizing b with
  | nil =>
    cases hs
    refine ⟨_, .nil _ _, ?_⟩
    rw [finishFrames_entries hf, entriesAll_reverse h.siblings, entries, List.append_assoc]
  | cons p ps ih =>
    rw [addAll_cons] at hs
    rcases bind_eq_ok_iff.mp hs with ⟨next, ha, hs⟩
    rcases ih (h.adds (adds_of_add ha)) hs with ⟨es, more, he⟩
    rcases h.transcript (adds_of_add ha) more with ⟨found, ht, hb⟩
    exact ⟨found, ht, by rw [he, hb]⟩

end Builder

/-- The entries of a compiled tree in pre-order are the transcript of the pieces of its source,
which tile it, and their lines do not decrease. -/
theorem compile_preorder {source : String} {nodes : List Node} (h : compile source = .ok nodes) :
    Tiled [] source.toList (pieces 1 source.toList).1 ∧
      Transcript none false (pieces 1 source.toList).1 (Node.entriesAll nodes) ∧
      InLineOrder (Node.entriesAll nodes) := by
  rcases Builder.compile_eq_ok h with ⟨hs, b, hb, hf⟩
  have tiled : Tiled [] source.toList (pieces 1 source.toList).1 := tiled_pieces rfl hs
  rcases Builder.regular_empty.transcript_addAll hb hf with ⟨es, transcript, he⟩
  have he : Node.entriesAll nodes = es := he
  rw [he]
  exact ⟨tiled, transcript, (transcript.inLineOrder tiled (Nat.le_refl 1)
    (TextRun.within_none _ _)).2⟩

/-- Branches, a raw region between texts that are trimmed, and a loop inside a layout. -/
theorem compile_preorder_of_layout :
    let source := "a\n\x7b% layout 'b' %\x7d \x7b%- raw -%\x7d\n\x7b\x7b\x7b% endraw %\x7d\n" ++
      "\x7b% if x %\x7d\x7b% for y in z %\x7d\n\x7b\x7b y \x7d\x7d\x7b% endfor %\x7d" ++
      "\x7b% elsif y -%\x7d c\x7b% endif %\x7d"
    ∃ nodes, compile source = .ok nodes ∧
      Tiled [] source.toList (pieces 1 source.toList).1 ∧
      Transcript none false (pieces 1 source.toList).1 (Node.entriesAll nodes) ∧
      InLineOrder (Node.entriesAll nodes) := by
  intro source
  have found : (compile source).toOption.isSome := by decide +kernel
  rcases exists_eq_ok_of_isSome found with ⟨nodes, h⟩
  exact ⟨nodes, h, compile_preorder h⟩

end TemplateSite
