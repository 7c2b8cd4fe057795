import Mathlib.Data.List.Chain
import Mathlib.Data.List.TakeWhile
import TemplateSite.Proofs.Template.Building

/-!
# Regular trees

The trees that rendering and dependency discovery are made for: texts are not empty and do not stand
next to each other, every kind of node carries what belongs to it, branches stand in conditionals
and nowhere else, and a layout is the last node of a template. Every compiled tree is one of them.
The invariant says the same of the siblings and of the open tags of a builder.
-/
namespace TemplateSite

/-- A file reference as it can be written in a tag. -/
inductive Reference.Written : List Char → Prop where
  | quoted {q : Char} {inside : List Char} (mark : isQuote q = true) (absent : q ∉ inside) :
    Written (q :: inside ++ [q])
  | bare {s : List Char} (mark : isQuoted s = false)
    (unbroken : ∀ c ∈ s, Text.isBlank c = false ∧ c ≠ ',') : Written s

namespace Node

/-- The nodes inside a node; there are none if it cannot have any. -/
def body (node : Node) : List Node :=
  node.children.getD []

def branch? : Node → Option (Option Expr × Bool)
  | .mk (.branch test negate) _ _ _ => some (test, negate)
  | _ => none

/-- No two texts stand next to each other. -/
def TextsApart (nodes : List Node) : Prop :=
  nodes.IsChain fun a b => a.text? = none ∨ b.text? = none

/-- The branches of a conditional: the first one has a test, only the last one may be without, and
only the first one may be negated. -/
structure BranchesInOrder (branches : List Node) : Prop where
  nonempty : branches ≠ []
  first : ∀ node ∈ branches.head?, ∃ test negate, node.branch? = some (some test, negate)
  tested : ∀ node ∈ branches.dropLast, ∃ test negate, node.branch? = some (some test, negate)
  plain : ∀ node ∈ branches.tail, ∃ test, node.branch? = some (test, false)

/-- A node that may stand at any place but among the branches of a conditional. -/
inductive Regular : Node → Prop where
  | text {s : String} (line : Nat) (nonempty : s ≠ "") : Regular (.leaf (.text s) line)
  | output (o : Output) (line : Nat) : Regular (.leaf (.output o) line)
  | assign (name : String) (value : Output) (line : Nat) :
    Regular (.leaf (.assign name value) line)
  | include {raw : String} (args : List Argument) (line : Nat)
    (written : Reference.Written raw.toList) : Regular (.mk (.include args) line (some raw) none)
  | block {name : String} {nodes : List Node} (line : Nat)
    (unbroken : ∀ c ∈ name.toList, Text.isBlank c = false) (apart : TextsApart nodes)
    (inside : ∀ node ∈ nodes, Regular node) : Regular (.container (.block name) line nodes)
  | loop {nodes : List Node} (spec : LoopSpec) (line : Nat) (apart : TextsApart nodes)
    (inside : ∀ node ∈ nodes, Regular node) : Regular (.container (.loop spec) line nodes)
  | conditional {branches : List Node} (line : Nat) (order : BranchesInOrder branches)
    (shape : ∀ branch ∈ branches, ∃ test negate start nodes,
      branch = branchNode test negate start nodes)
    (apart : ∀ branch ∈ branches, TextsApart branch.body)
    (inside : ∀ branch ∈ branches, ∀ node ∈ branch.body, Regular node) :
    Regular (.container .conditional line branches)

/-- Siblings that may stand together at any place. -/
structure RegularAll (nodes : List Node) : Prop where
  apart : TextsApart nodes
  each : ∀ node ∈ nodes, Regular node

/-- A whole template: regular siblings, the last of which may be a layout around regular ones. -/
inductive RegularTemplate : List Node → Prop where
  | plain {nodes : List Node} (regular : RegularAll nodes) : RegularTemplate nodes
  | laidOut {before nodes : List Node} {raw : String} (line : Nat) (front : RegularAll before)
    (written : Reference.Written raw.toList) (inside : RegularAll nodes) :
    RegularTemplate (before ++ [.mk .layout line (some raw) (some nodes)])

theorem RegularAll.nil : RegularAll [] :=
  ⟨List.IsChain.nil, by simp⟩

theorem TextsApart.reverse {nodes : List Node} (h : TextsApart nodes) :
    TextsApart nodes.reverse := by
  rw [TextsApart, List.isChain_reverse]
  exact h.imp fun _ _ hab => Or.symm hab

theorem RegularAll.reverse {nodes : List Node} (h : RegularAll nodes) :
    RegularAll nodes.reverse :=
  ⟨h.apart.reverse, fun node hn => h.each node (List.mem_reverse.mp hn)⟩

theorem TextsApart.tail {node : Node} {nodes : List Node} (h : TextsApart (node :: nodes)) :
    TextsApart nodes :=
  List.IsChain.tail h

theorem RegularAll.tail {node : Node} {nodes : List Node} (h : RegularAll (node :: nodes)) :
    RegularAll nodes :=
  ⟨h.apart.tail, fun n hn => h.each n (List.mem_cons_of_mem _ hn)⟩

theorem RegularAll.cons {node : Node} {nodes : List Node} (hn : Regular node)
    (ht : node.text? = none) (h : RegularAll nodes) : RegularAll (node :: nodes) := by
  refine ⟨?_, ?_⟩
  · refine List.IsChain.cons h.apart ?_
    intro other _
    exact Or.inl ht
  · intro other ho
    rcases List.mem_cons.mp ho with rfl | ho
    · exact hn
    · exact h.each other ho

theorem RegularAll.cons_text {line : Nat} {s : String} {nodes : List Node} (hs : s ≠ "")
    (ht : ∀ node ∈ nodes.head?, node.text? = none) (h : RegularAll nodes) :
    RegularAll (.leaf (.text s) line :: nodes) := by
  refine ⟨?_, ?_⟩
  · refine List.IsChain.cons h.apart ?_
    intro other ho
    exact Or.inr (ht other ho)
  · intro other ho
    rcases List.mem_cons.mp ho with rfl | ho
    · exact .text line hs
    · exact h.each other ho

/-- The sibling next to a text is no text. -/
theorem RegularAll.after_text {line : Nat} {s : String} {file : Option String}
    {children : Option (List Node)} {nodes : List Node}
    (h : RegularAll (.mk (.text s) line file children :: nodes)) :
    ∀ node ∈ nodes.head?, node.text? = none := by
  intro node hn
  rcases (List.isChain_cons.mp h.apart).1 node hn with hl | hr
  · cases hl
  · exact hr

def RegularBranch (branch : Node) : Prop :=
  ∃ test negate start nodes, branch = branchNode test negate start nodes ∧ RegularAll nodes

theorem Regular.of_branches {branches : List Node} (line : Nat) (order : BranchesInOrder branches)
    (h : ∀ branch ∈ branches, RegularBranch branch) :
    Regular (.container .conditional line branches) := by
  refine .conditional line order ?_ ?_ ?_
  · intro branch hb
    rcases h branch hb with ⟨test, negate, start, nodes, rfl, -⟩
    exact ⟨test, negate, start, nodes, rfl⟩
  · intro branch hb
    rcases h branch hb with ⟨test, negate, start, nodes, rfl, hn⟩
    exact hn.apart
  · intro branch hb
    rcases h branch hb with ⟨test, negate, start, nodes, rfl, hn⟩
    exact hn.each

end Node

/-- What is left of a text after a file reference starts where the reference ends: for a bare one at
a blank or a comma. -/
theorem FileRef.split_eq_ok {s raw rest : List Char} (h : FileRef.split s = .ok (raw, rest)) :
    s = raw ++ rest ∧ Reference.Written raw ∧
      (Reference.isQuoted raw = false → ∀ c ∈ rest.head?, Text.isBlank c = true ∨ c = ',') := by
  cases s with
  | nil => cases h
  | cons c tail =>
    rw [split] at h
    by_cases hq : Reference.isQuote c = true
    · rw [if_pos hq] at h
      cases hd : tail.dropWhile (· != c) with
      | nil => simp [hd] at h
      | cons d after =>
        simp only [hd, Except.ok.injEq, Prod.mk.injEq] at h
        rcases h with ⟨rfl, rfl⟩
        have hdc : d = c := by
          have := List.head?_dropWhile_not (· != c) tail
          simpa [hd] using this
        have ht := List.takeWhile_append_dropWhile (p := (· != c)) (l := tail)
        rw [hd, hdc] at ht
        refine ⟨by simpa using ht.symm, .quoted hq ?_, ?_⟩
        · intro hc
          simpa using List.mem_takeWhile_imp hc
        · intro hn
          rw [List.cons_append, Reference.isQuoted, hq] at hn
          cases hn
    · rw [if_neg hq] at h
      simp only [Except.ok.injEq, Prod.mk.injEq] at h
      rcases h with ⟨rfl, rfl⟩
      refine ⟨(List.takeWhile_append_dropWhile).symm, .bare ?_ ?_, ?_⟩
      · rw [List.takeWhile_cons]
        split
        · simpa [Reference.isQuoted] using hq
        · rfl
      · intro d hd
        simpa using List.mem_takeWhile_imp hd
      · intro _ d hd
        have := List.head?_dropWhile_not (fun d => !(Text.isBlank d || d == ',')) (c :: tail)
        rw [hd] at this
        by_cases hb : Text.isBlank d = true
        · exact Or.inl hb
        · exact Or.inr (by simpa [hb] using this)

theorem FileRef.parse_written {s : List Char} {ref : FileRef} (h : FileRef.parse s = .ok ref) :
    Reference.Written ref.raw.toList := by
  rcases bind_eq_ok_iff.mp h with ⟨⟨raw, rest⟩, hs, h⟩
  rcases bind_eq_ok_iff.mp h with ⟨tokens, -, h⟩
  rcases bind_eq_ok_iff.mp h with ⟨args, -, h⟩
  cases h
  simpa using (FileRef.split_eq_ok hs).2.1

namespace Builder
open Node

theorem blockName_unbroken {args : List Char} {label : String} (h : blockName args = .ok label) :
    ∀ c ∈ label.toList, Text.isBlank c = false := by
  rw [blockName] at h
  split at h
  · cases h
  · rename_i hb
    cases h
    simpa using hb

/-- What holds of a conditional under way: of the branches that are complete, the latest first, and
of the test and the sense of the current one. -/
structure OpenBranches (branches : List Node) (test : Option Expr) (negate closed : Bool) :
    Prop where
  regular : ∀ branch ∈ branches, RegularBranch branch
  tested : ∀ branch ∈ branches, ∃ test negate, branch.branch? = some (some test, negate)
  plain : ∀ branch ∈ branches.dropLast, ∃ test, branch.branch? = some (test, false)
  first : branches = [] → ∃ e, test = some e
  later : branches ≠ [] → negate = false
  unsealed : closed = false → ∃ e, test = some e

/-- What holds of an open tag. -/
inductive RegularTag : OpenTag → Prop where
  | conditional {branches : List Node} {test : Option Expr} {negate closed : Bool}
    (negated : Bool) (line : Nat) (h : OpenBranches branches test negate closed) :
    RegularTag (.conditional negated branches test negate line closed)
  | loop (spec : LoopSpec) : RegularTag (.loop spec)
  | block {name : String} (unbroken : ∀ c ∈ name.toList, Text.isBlank c = false) :
    RegularTag (.block name)
  | layout {file : String} (written : Reference.Written file.toList) : RegularTag (.layout file)

/-- What holds of a builder: the siblings at the current place and around it are regular, and a
layout is open outside all other tags only. -/
structure Regular (b : Builder) : Prop where
  siblings : RegularAll b.siblings
  frames : ∀ frame ∈ b.frames, RegularTag frame.tag ∧ RegularAll frame.outer
  nested : ∀ frame ∈ b.frames.dropLast, ∃ c, frame.tag.construct? = some c

theorem regular_empty : empty.Regular :=
  ⟨.nil, by simp [empty], by simp [empty]⟩

theorem joinText_regular {siblings : List Node} (line : Nat) (s : List Char)
    (h : RegularAll siblings) : RegularAll (joinText line s siblings) := by
  by_cases hs : s.isEmpty = true
  · rw [joinText_of_isEmpty hs]
    exact h
  · have hs : s.isEmpty = false := by simpa using hs
    rcases text_or_no_text siblings with ⟨t, l, file, children, rest, rfl⟩ | ht
    · rw [joinText_of_text hs]
      cases h.each _ (List.mem_cons_self ..) with
      | text _ nonempty => exact .cons_text (by simp [nonempty]) h.after_text h.tail
    · rw [joinText_of_no_text hs line ht]
      exact .cons_text (by simpa using hs) ht h

theorem trimLast_regular {siblings : List Node} (h : RegularAll siblings) :
    RegularAll (trimLast siblings) := by
  rcases text_or_no_text siblings with ⟨t, l, file, children, rest, rfl⟩ | ht
  · rw [trimLast_of_text]
    split
    · exact h.tail
    · rename_i hs
      cases h.each _ (List.mem_cons_self ..) with
      | text _ _ => exact .cons_text (by simpa using hs) h.after_text h.tail
  · rw [trimLast_of_no_text ht]
    exact h

theorem Regular.applyDashes {b : Builder} (h : b.Regular) (dashes : Dashes) :
    (b.applyDashes dashes).Regular := by
  refine ⟨?_, h.frames, h.nested⟩
  simp only [Builder.applyDashes]
  split
  · exact trimLast_regular h.siblings
  · exact h.siblings

theorem Regular.appendText {b : Builder} (h : b.Regular) (line : Nat) (s : List Char) :
    (b.appendText line s).Regular :=
  ⟨joinText_regular line _ h.siblings, h.frames, h.nested⟩

theorem Regular.append {b : Builder} {node : Node} (h : b.Regular) (hn : node.Regular)
    (ht : node.text? = none) : (b.append node).Regular :=
  ⟨.cons hn ht h.siblings, h.frames, h.nested⟩

theorem Regular.enter {b : Builder} {tag : OpenTag} (h : b.Regular) (line : Nat)
    (ht : RegularTag tag) (hc : b.frames = [] ∨ ∃ c, tag.construct? = some c) :
    (b.enter tag line).Regular := by
  refine ⟨.nil, ?_, ?_⟩
  · intro frame hf
    rcases List.mem_cons.mp hf with rfl | hf
    · exact ⟨ht, h.siblings⟩
    · exact h.frames frame hf
  · intro frame hf
    simp only [Builder.enter] at hf
    cases hfs : b.frames with
    | nil => simp [hfs] at hf
    | cons first rest =>
      rw [hfs, List.dropLast_cons_of_ne_nil (by simp)] at hf
      rcases List.mem_cons.mp hf with rfl | hf
      · exact hc.resolve_left (by simp [hfs])
      · exact h.nested frame (by simpa [hfs] using hf)

theorem Regular.innermost {b : Builder} {frame : Frame} {frames : List Frame} (h : b.Regular)
    (hf : b.frames = frame :: frames) : RegularTag frame.tag ∧ RegularAll frame.outer :=
  h.frames frame (by simp [hf])

theorem Regular.replace {b : Builder} {old tag : OpenTag} {start : Nat} {outer : List Node}
    {frames : List Frame} (h : b.Regular) (hf : b.frames = ⟨old, start, outer⟩ :: frames)
    (ht : RegularTag tag) (hc : ∃ c, tag.construct? = some c) (trimNext : Bool) :
    Builder.Regular ⟨⟨tag, start, outer⟩ :: frames, [], trimNext⟩ := by
  refine ⟨.nil, ?_, ?_⟩
  · intro other hm
    rcases List.mem_cons.mp hm with rfl | hm
    · exact ⟨ht, (h.innermost hf).2⟩
    · exact h.frames other (by simp [hf, hm])
  · intro other hm
    cases frames with
    | nil => simp at hm
    | cons next rest =>
      rw [List.dropLast_cons_of_ne_nil (by simp)] at hm
      rcases List.mem_cons.mp hm with rfl | hm
      · exact hc
      · refine h.nested other ?_
        rw [hf, List.dropLast_cons_of_ne_nil (by simp)]
        exact List.mem_cons_of_mem _ hm

theorem regularBranch_branchNode (test : Option Expr) (negate : Bool) (line : Nat)
    {nodes : List Node} (h : RegularAll nodes) :
    RegularBranch (branchNode test negate line nodes) :=
  ⟨test, negate, line, nodes, rfl, h⟩

theorem OpenBranches.next {branches : List Node} {test next : Option Expr} {negate closed : Bool}
    (h : OpenBranches branches test negate false) (line : Nat) {nodes : List Node}
    (hn : RegularAll nodes) (hc : closed = false → ∃ e, next = some e) :
    OpenBranches (branchNode test negate line nodes :: branches) next false closed := by
  rcases h.unsealed rfl with ⟨e, rfl⟩
  refine ⟨?_, ?_, ?_, by simp, fun _ => rfl, hc⟩
  · intro branch hb
    rcases List.mem_cons.mp hb with rfl | hb
    · exact regularBranch_branchNode _ _ _ hn
    · exact h.regular branch hb
  · intro branch hb
    rcases List.mem_cons.mp hb with rfl | hb
    · exact ⟨e, negate, rfl⟩
    · exact h.tested branch hb
  · intro branch hb
    by_cases hbs : branches = []
    · simp [hbs] at hb
    · rw [List.dropLast_cons_of_ne_nil hbs] at hb
      rcases List.mem_cons.mp hb with rfl | hb
      · rw [h.later hbs]
        exact ⟨some e, rfl⟩
      · exact h.plain branch hb

/-- The branches of a conditional are in order when its last one is complete. -/
theorem OpenBranches.complete {branches : List Node} {test : Option Expr} {negate closed : Bool}
    (h : OpenBranches branches test negate closed) (line : Nat) (nodes : List Node) :
    BranchesInOrder (branchNode test negate line nodes :: branches).reverse := by
  refine ⟨by simp, ?_, ?_, ?_⟩
  · intro node hn
    rw [List.head?_reverse] at hn
    by_cases hb : branches = []
    · subst hb
      rcases h.first rfl with ⟨e, rfl⟩
      cases hn
      exact ⟨e, negate, rfl⟩
    · rw [List.getLast?_cons_of_ne_nil hb] at hn
      exact h.tested node (List.mem_of_mem_getLast? hn)
  · intro node hn
    rw [List.dropLast_reverse, List.tail_cons, List.mem_reverse] at hn
    exact h.tested node hn
  · intro node hn
    rw [List.tail_reverse, List.mem_reverse] at hn
    by_cases hb : branches = []
    · simp [hb] at hn
    · rw [List.dropLast_cons_of_ne_nil hb] at hn
      rcases List.mem_cons.mp hn with rfl | hn
      · rw [h.later hb]
        exact ⟨test, rfl⟩
      · exact h.plain node hn

theorem RegularTag.node {tag : OpenTag} {c : Construct} {nodes : List Node} (line : Nat)
    (h : RegularTag tag) (hc : tag.construct? = some c) (hn : RegularAll nodes) :
    (tag.node line nodes).Regular ∧ (tag.node line nodes).text? = none := by
  cases h with
  | @conditional branches test negate closed negated start h =>
    refine ⟨.of_branches line (h.complete start nodes) ?_, rfl⟩
    intro branch hb
    rcases List.mem_cons.mp (List.mem_reverse.mp hb) with rfl | hb
    · exact regularBranch_branchNode _ _ _ hn
    · exact h.regular branch hb
  | loop spec => exact ⟨.loop spec line hn.apart hn.each, rfl⟩
  | block unbroken => exact ⟨.block line unbroken hn.apart hn.each, rfl⟩
  | layout written => cases hc

theorem Regular.adds {b b' : Builder} {p : Piece} (h : b.Regular) (ha : Adds b p b') :
    b'.Regular := by
  cases ha with
  | text line s => exact h.appendText line s
  | output line dashes body read => exact (h.applyDashes dashes).append (.output _ line) rfl
  | assign line dashes name keyword read =>
    exact (h.applyDashes dashes).append (.assign _ _ line) rfl
  | «include» line dashes name keyword read =>
    exact (h.applyDashes dashes).append (.include _ line (FileRef.parse_written read)) rfl
  | @conditional args test line dashes negated name keyword read =>
    refine (h.applyDashes dashes).enter line (.conditional negated line ?_) (Or.inr ⟨_, rfl⟩)
    exact ⟨by simp, by simp, by simp, fun _ => ⟨test, rfl⟩, by simp, fun _ => ⟨test, rfl⟩⟩
  | loop line dashes name keyword read =>
    exact (h.applyDashes dashes).enter line (.loop _) (Or.inr ⟨_, rfl⟩)
  | block line dashes name keyword read =>
    exact (h.applyDashes dashes).enter line (.block (blockName_unbroken read)) (Or.inr ⟨_, rfl⟩)
  | layout line dashes name keyword top read bare =>
    exact (h.applyDashes dashes).enter line (.layout (FileRef.parse_written read)) (Or.inl top)
  | elseIf line dashes name keyword read frame =>
    cases (h.innermost frame).1 with
    | conditional _ _ branches =>
      refine h.replace frame (.conditional _ line ?_) ⟨_, rfl⟩ _
      exact branches.next _ (h.applyDashes dashes).siblings.reverse fun _ => ⟨_, rfl⟩
  | otherwise line dashes name keyword frame =>
    cases (h.innermost frame).1 with
    | conditional _ _ branches =>
      refine h.replace frame (.conditional _ line ?_) ⟨_, rfl⟩ _
      exact branches.next _ (h.applyDashes dashes).siblings.reverse (by simp)
  | @closing args tag start outer frames line dashes c name keyword frame construct =>
    have hf := h.innermost frame
    have hn := hf.1.node start construct (h.applyDashes dashes).siblings.reverse
    refine ⟨.cons hn.1 hn.2 hf.2, ?_, ?_⟩
    · intro other ho
      exact h.frames other (by simp [frame, ho])
    · intro other ho
      refine h.nested other ?_
      rw [frame, List.dropLast_cons_of_ne_nil (List.ne_nil_of_mem (List.dropLast_subset _ ho))]
      exact List.mem_cons_of_mem _ ho
  | raw line opening body closing =>
    obtain ⟨siblings, frames, nested⟩ := (h.applyDashes opening).appendText line
      (if closing.left then Text.trimEnd body else body)
    exact ⟨siblings, frames, nested⟩
  | comment line opening closing => exact h.applyDashes _

/-- A builder that is finished has no open tag but a layout outside everything. -/
theorem Regular.finish {b : Builder} {nodes : List Node} (h : b.Regular)
    (hf : b.finish = .ok nodes) : RegularTemplate nodes := by
  rw [Builder.finish] at hf
  cases hfs : b.frames with
  | nil =>
    rw [hfs] at hf
    cases hf
    exact .plain h.siblings.reverse
  | cons frame rest =>
    have hframe := h.innermost hfs
    rw [hfs, finishFrames] at hf
    split at hf
    · rename_i hc
      have hrest : rest = [] := by
        by_contra hne
        rcases h.nested frame (by simp [hfs, List.dropLast_cons_of_ne_nil hne]) with ⟨c, hc'⟩
        rw [hc] at hc'
        cases hc'
      subst hrest
      cases hf
      rcases frame with ⟨tag, line, outer⟩
      cases hframe.1 with
      | layout written =>
        rw [List.reverse_cons]
        exact .laidOut line hframe.2.reverse written h.siblings.reverse
      | _ => cases hc
    · cases hf

end Builder

/-- Every template that compiles has a regular tree. -/
theorem compile_regular {source : String} {nodes : List Node} (h : compile source = .ok nodes) :
    Node.RegularTemplate nodes := by
  rcases Builder.compile_eq_ok h with ⟨-, b, hb, hf⟩
  exact (Builder.addAll_keeps Builder.Regular.adds Builder.regular_empty hb).finish hf

/-- A conditional with three branches and a text that is trimmed away, inside a layout. -/
theorem compile_regular_of_layout :
    let source := "a\x7b% layout 'b' %\x7d\x7b% if x %\x7d \x7b%- elsif y %\x7dc" ++
      "\x7b% else %\x7d\x7b% endif %\x7d"
    ∃ nodes, compile source = .ok nodes ∧ Node.RegularTemplate nodes := by
  intro source
  have found : (compile source).toOption.isSome := by decide +kernel
  rcases exists_eq_ok_of_isSome found with ⟨nodes, h⟩
  exact ⟨nodes, h, compile_regular h⟩

end TemplateSite
