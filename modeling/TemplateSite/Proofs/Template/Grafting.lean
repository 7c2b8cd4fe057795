import TemplateSite.Proofs.Template.Building
import TemplateSite.Proofs.Template.Following
import TemplateSite.Proofs.Template.Shifting

/-!
# Building on what stands before

A builder can work below nodes that are finished. Without dashes it does there what it does on its
own, further down: its outermost nodes follow those before them, and a text at their start continues
a text at the end of those.
-/
namespace TemplateSite
open Text

/-- The delimiters that ask for texts to be trimmed. -/
def dashedDelimiters : List (List Char) :=
  [['\x7b', '\x7b', '-'], ['\x7b', '%', '-'], ['-', '\x7d', '\x7d'], ['-', '%', '\x7d']]

/-- A text in which no delimiter has a dash. -/
def Undashed (s : List Char) : Prop :=
  ∀ d ∈ dashedDelimiters, ¬ d <:+: s

theorem Undashed.of_infix {s t : List Char} (h : Undashed s) (ht : t <:+: s) : Undashed t :=
  fun d hd hi => h d hd (hi.trans ht)

def Dashes.absent : Dashes :=
  ⟨false, false⟩

theorem dashes_eq_absent {first last : Char} {dashes : Dashes} {inner : List Char}
    (h : Undashed (enclosed first last dashes inner))
    (hf : ['\x7b', first, '-'] ∈ dashedDelimiters)
    (hl : ['-', last, '\x7d'] ∈ dashedDelimiters) : dashes = .absent := by
  rcases dashes with ⟨left, right⟩
  have hleft : left = false := by
    cases left with
    | false => rfl
    | true => exact absurd ⟨[], _, rfl⟩ (h _ hf)
  have hright : right = false := by
    cases right with
    | false => rfl
    | true =>
      refine absurd ⟨'\x7b' :: first :: (dash left ++ inner), [], ?_⟩ (h _ hl)
      simp [enclosed, dash]
  rw [hleft, hright]
  rfl

def Piece.Undashed : Piece → Prop
  | .text _ _ => True
  | .output _ dashes _ => dashes = .absent
  | .tag _ dashes _ _ => dashes = .absent
  | .raw _ opening _ closing => opening = .absent ∧ closing = .absent
  | .comment _ opening closing => opening = .absent ∧ closing = .absent

theorem Piece.Spelled.undashed {p : Piece} {chunk : List Char} (h : p.Spelled chunk)
    (hc : TemplateSite.Undashed chunk) : p.Undashed := by
  have tag {dashes : Dashes} (inner : List Char) (hi : enclosedTag dashes inner <:+: chunk) :
      dashes = .absent :=
    dashes_eq_absent (hc.of_infix hi) (by decide) (by decide)
  cases h with
  | text line nonempty plain => trivial
  | output line dashes body => exact dashes_eq_absent hc (by decide) (by decide)
  | tag line dashes inner split region => exact tag inner (List.infix_refl _)
  | @raw inner close line opening body closing name last =>
    refine ⟨tag inner (List.prefix_append _ _).isInfix, tag close ?_⟩
    exact ((List.suffix_append _ _).trans (List.suffix_append _ _)).isInfix
  | @comment inner body close line opening closing name last =>
    refine ⟨tag inner (List.prefix_append _ _).isInfix, tag close ?_⟩
    exact ((List.suffix_append _ _).trans (List.suffix_append _ _)).isInfix

theorem undashed_of_pieces {line : Nat} {s : List Char} (h : Undashed s) :
    ∀ p ∈ (pieces line s).1, p.Undashed := by
  induction line, s using pieces.induct with
  | case1 line s stop hc =>
    rw [pieces_of_stop hc]
    simp
  | case2 line s p line' rest hc more stop hm ih =>
    rcases cut_eq_piece hc with ⟨chunk, rfl, spelled, -, -⟩
    rw [pieces_of_piece hc, List.forall_mem_cons]
    exact ⟨spelled.undashed (h.of_infix (List.prefix_append _ _).isInfix),
      ih (h.of_infix (List.suffix_append _ _).isInfix)⟩

namespace Node

/-- Nodes that follow others. A text at the end of the first ones is continued by a text at the
start of the others. -/
def follow (first rest : List Node) : List Node :=
  match first.getLast?, rest with
  | some (.mk (.text s) line file children), .mk (.text t) _ _ _ :: more =>
    first.dropLast ++ .mk (.text (s ++ t)) line file children :: more
  | _, _ => first ++ rest

/-- Puts a node on siblings before it, the latest first. -/
def onto (node : Node) (base : List Node) : List Node :=
  match node, base with
  | .mk (.text t) _ _ _, .mk (.text s) line file children :: rest =>
    .mk (.text (s ++ t)) line file children :: rest
  | _, _ => node :: base

/-- Puts siblings on those before them, both the latest first. -/
def allOnto (base : List Node) : List Node → List Node
  | [] => base
  | [node] => node.onto base
  | node :: next :: rest => node :: allOnto base (next :: rest)

theorem onto_of_no_text {node : Node} (h : node.text? = none) (base : List Node) :
    node.onto base = node :: base := by
  rcases node with ⟨kind, line, file, children⟩
  cases kind with
  | text t => cases h
  | _ => rfl

theorem allOnto_cons {node : Node} (h : node.text? = none) (base nodes : List Node) :
    allOnto base (node :: nodes) = node :: allOnto base nodes := by
  cases nodes with
  | nil => exact onto_of_no_text h base
  | cons next rest => rfl

theorem allOnto_append (base nodes : List Node) (node : Node) :
    allOnto base (nodes ++ [node]) = nodes ++ node.onto base := by
  induction nodes with
  | nil => rfl
  | cons first nodes ih =>
    cases nodes with
    | nil => rfl
    | cons next rest => exact congrArg (first :: ·) ih

theorem reverse_allOnto (base nodes : List Node) :
    (allOnto base nodes).reverse = follow base.reverse nodes.reverse := by
  rcases List.eq_nil_or_concat nodes with rfl | ⟨nodes, node, rfl⟩
  · rw [allOnto, List.reverse_nil, follow.eq_def]
    split
    · rename_i hr
      cases hr
    · rw [List.append_nil]
  · rw [List.concat_eq_append, allOnto_append, List.reverse_append, List.reverse_append,
      List.reverse_singleton, List.singleton_append]
    rcases node with ⟨kind, line, file, children⟩
    cases kind with
    | text t =>
      rw [follow.eq_def, List.getLast?_reverse, List.dropLast_reverse]
      rcases base with _ | ⟨⟨kind, l, f, c⟩, rest⟩
      · rfl
      · cases kind with
        | text s => simp [onto]
        | _ => simp [onto]
    | _ =>
      rw [onto_of_no_text rfl, follow.eq_def]
      simp

end Node

def OpenTag.later (k : Nat) : OpenTag → OpenTag
  | .conditional negated branches test negate branchLine isSealed =>
    .conditional negated (Node.laterAll k branches) test negate (branchLine + k) isSealed
  | .loop spec => .loop spec
  | .block name => .block name
  | .layout file => .layout file

theorem OpenTag.construct?_later (k : Nat) (tag : OpenTag) :
    (tag.later k).construct? = tag.construct? := by
  cases tag <;> rfl

theorem later_branchNode (k : Nat) (test : Option Expr) (negate : Bool) (line : Nat)
    (body : List Node) : (branchNode test negate line body).later k =
      branchNode test negate (line + k) (Node.laterAll k body) :=
  Node.later_container ..

theorem OpenTag.node_later (k : Nat) (tag : OpenTag) (line : Nat) (body : List Node) :
    (tag.later k).node (line + k) (Node.laterAll k body) = (tag.node line body).later k := by
  cases tag with
  | conditional negated branches test negate branchLine isSealed =>
    rw [OpenTag.later, node, node, Node.later_container, Node.laterAll_reverse, Node.laterAll,
      later_branchNode]
  | loop spec => exact (Node.later_container ..).symm
  | block name => exact (Node.later_container ..).symm
  | layout file =>
    rw [OpenTag.later, node, node, Node.later, Node.laterOf]

theorem OpenTag.text?_node (tag : OpenTag) (line : Nat) (body : List Node) :
    (tag.node line body).text? = none := by
  cases tag <;> rfl

namespace Builder

theorem joinText_later (k line : Nat) (s : List Char) (siblings : List Node) :
    joinText (line + k) s (Node.laterAll k siblings) =
      Node.laterAll k (joinText line s siblings) := by
  by_cases hs : s.isEmpty = true
  · rw [joinText_of_isEmpty hs, joinText_of_isEmpty hs]
  · have hs : s.isEmpty = false := by simpa using hs
    rcases text_or_no_text siblings with ⟨t, l, file, children, rest, rfl⟩ | ht
    · rw [joinText_of_text hs, Node.laterAll, Node.later, joinText_of_text hs, Node.laterAll,
        Node.later]
    · have hk : ∀ node ∈ (Node.laterAll k siblings).head?, node.text? = none := by
        cases siblings with
        | nil => simp [Node.laterAll]
        | cons first rest =>
          rw [Node.laterAll]
          rintro _ ⟨⟩
          rw [Node.text?_later]
          exact ht first rfl
      rw [joinText_of_no_text hs _ hk, joinText_of_no_text hs _ ht, Node.laterAll, Node.later_leaf]

/-- A text that is put on siblings continues the text before it, or starts a new one. -/
theorem onto_text {s : List Char} (hs : s.isEmpty = false) (line : Nat) (base : List Node) :
    (Node.leaf (.text (String.ofList s)) line).onto base = joinText line s base := by
  rcases text_or_no_text base with ⟨u, l, file, children, rest, rfl⟩ | ht
  · rw [joinText_of_text hs]
    rfl
  · rw [joinText_of_no_text hs line ht]
    rcases base with _ | ⟨⟨kind, l, file, children⟩, rest⟩
    · rfl
    · cases kind with
      | text u => exact absurd (ht _ rfl) (by simp [Node.text?])
      | _ => rfl

theorem joinText_onto_text {s : List Char} (hs : s.isEmpty = false) (line l : Nat) (t : String)
    (file : Option String) (children : Option (List Node)) (base : List Node) :
    joinText line s ((Node.mk (.text t) l file children).onto base) =
      (Node.mk (.text (t ++ String.ofList s)) l file children).onto base := by
  rcases base with _ | ⟨⟨kind, l, file, children⟩, rest⟩
  · rw [Node.onto, Node.onto, joinText_of_text hs]
    all_goals simp
  · cases kind with
    | text u => rw [Node.onto, Node.onto, joinText_of_text hs, String.append_assoc]
    | _ =>
      rw [Node.onto, Node.onto, joinText_of_text hs]
      all_goals simp

theorem joinText_allOnto (line : Nat) (s : List Char) (base siblings : List Node) :
    joinText line s (Node.allOnto base siblings) = Node.allOnto base (joinText line s siblings) := by
  by_cases hs : s.isEmpty = true
  · rw [joinText_of_isEmpty hs, joinText_of_isEmpty hs]
  · have hs : s.isEmpty = false := by simpa using hs
    rcases text_or_no_text siblings with ⟨t, l, file, children, rest, rfl⟩ | ht
    · rw [joinText_of_text hs]
      cases rest with
      | nil => exact joinText_onto_text hs line l t file children base
      | cons next rest => rw [Node.allOnto, Node.allOnto, joinText_of_text hs]
    · rw [joinText_of_no_text hs line ht]
      cases siblings with
      | nil => exact (onto_text hs line base).symm
      | cons first rest =>
        have hfirst : first.text? = none := ht first rfl
        rw [Node.allOnto, Node.allOnto_cons hfirst, joinText_of_no_text hs]
        rintro _ ⟨⟩
        exact hfirst

/-- The siblings inside open tags, further down. Outside all tags they are put on those before
them. -/
def siblingsOver (k : Nat) (base : List Node) (frames : List Frame) (siblings : List Node) :
    List Node :=
  match frames with
  | [] => Node.allOnto base (Node.laterAll k siblings)
  | _ :: _ => Node.laterAll k siblings

/-- Open tags, further down, the outermost of them after the siblings before it. -/
def framesOver (k : Nat) (base : List Node) : List Frame → List Frame
  | [] => []
  | frame :: frames =>
    ⟨frame.tag.later k, frame.line + k, siblingsOver k base frames frame.outer⟩ ::
      framesOver k base frames

/-- What a builder has made, the given number of lines further down and after siblings that are
finished, the latest first. -/
def laidOver (k : Nat) (base : List Node) (b : Builder) : Builder :=
  ⟨framesOver k base b.frames, siblingsOver k base b.frames b.siblings, b.trimNext⟩

variable (k : Nat) (base : List Node)

theorem siblingsOver_cons {node : Node} (h : node.text? = none) (frames : List Frame)
    (siblings : List Node) : siblingsOver k base frames (node :: siblings) =
      node.later k :: siblingsOver k base frames siblings := by
  cases frames with
  | nil =>
    rw [siblingsOver, siblingsOver, Node.laterAll, Node.allOnto_cons]
    rwa [Node.text?_later]
  | cons frame frames => rw [siblingsOver, siblingsOver, Node.laterAll]

theorem joinText_siblingsOver (line : Nat) (s : List Char) (frames : List Frame)
    (siblings : List Node) : joinText (line + k) s (siblingsOver k base frames siblings) =
      siblingsOver k base frames (joinText line s siblings) := by
  cases frames with
  | nil => rw [siblingsOver, siblingsOver, joinText_allOnto, joinText_later]
  | cons frame frames => exact joinText_later ..

theorem laidOver_append (b : Builder) {node : Node} (h : node.text? = none) :
    (b.laidOver k base).append (node.later k) = (b.append node).laidOver k base := by
  rw [append, append, laidOver, laidOver, siblingsOver_cons k base h]

theorem laidOver_appendText (b : Builder) (line : Nat) (s : List Char) :
    (b.laidOver k base).appendText (line + k) s = (b.appendText line s).laidOver k base := by
  exact congrArg (fun siblings => Builder.mk _ siblings _)
    (joinText_siblingsOver k base line _ b.frames b.siblings)

theorem laidOver_undashed (b : Builder) :
    (b.laidOver k base).applyDashes .absent = (b.applyDashes .absent).laidOver k base := rfl

/-- The outcome of a step, further down and after what stands before. -/
def outcomeOver (outcome : Except CompileFault Builder) : Except CompileFault Builder :=
  (outcome.map (laidOver k base)).mapError (CompileFault.later k)

theorem onTag_later {α : Type} (line : Nat) (tag : String) (read : Except SyntaxFault α) :
    onTag (line + k) tag read = (onTag line tag read).mapError (CompileFault.later k) := by
  cases read <;> rfl

theorem read_laidOver {α : Type} {line : Nat} {tag : String} {read : Except SyntaxFault α}
    {there here : α → Except CompileFault Builder}
    (h : ∀ a, there a = outcomeOver k base (here a)) :
    (onTag (line + k) tag read >>= there) = outcomeOver k base (onTag line tag read >>= here) := by
  cases read with
  | error fault => rfl
  | ok a => exact h a

theorem nextBranch_laidOver (b : Builder) (line : Nat) (keyword : Keyword)
    (test : Except CompileFault (Option Expr)) :
    (b.laidOver k base).nextBranch (line + k) keyword (test.mapError (CompileFault.later k)) =
      outcomeOver k base (b.nextBranch line keyword test) := by
  rcases b with ⟨frames, siblings, trimNext⟩
  rcases frames with _ | ⟨⟨tag, start, outer⟩, frames⟩
  · rfl
  · cases tag with
    | conditional negated branches oldTest negate branchLine isSealed =>
      cases isSealed with
      | true => rfl
      | false =>
        cases test with
        | error e => rfl
        | ok found =>
          simp only [nextBranch, laidOver, framesOver, OpenTag.later, siblingsOver, outcomeOver,
            mapError_ok, Except.map, bind, Except.bind, pure, Except.pure, Node.laterAll,
            later_branchNode, Node.laterAll_reverse]
    | _ => rfl

theorem close_laidOver (b : Builder) (line : Nat) (c : Construct) :
    (b.laidOver k base).close (line + k) c = outcomeOver k base (b.close line c) := by
  rcases b with ⟨frames, siblings, trimNext⟩
  rcases frames with _ | ⟨⟨tag, start, outer⟩, frames⟩
  · rfl
  · rw [close, close]
    simp only [laidOver, framesOver, OpenTag.construct?_later]
    split
    · have hnode := siblingsOver_cons k base (tag.text?_node start siblings.reverse) frames outer
      simp only [outcomeOver, Except.map, mapError_ok, laidOver, hnode]
      rw [← OpenTag.node_later, Node.laterAll_reverse]
      rfl
    · rfl

theorem layoutFile_laidOver (b : Builder) (args : List Char) :
    (b.laidOver k base).layoutFile args = b.layoutFile args := by
  rcases b with ⟨frames, siblings, trimNext⟩
  cases frames <;> rfl

theorem tag_laidOver (b : Builder) (line : Nat) (keyword : Keyword) (args : List Char) :
    (b.laidOver k base).tag (line + k) keyword args =
      outcomeOver k base (b.tag line keyword args) := by
  cases keyword with
  | opening c => cases c <;> exact read_laidOver k base fun _ => rfl
  | closing c => exact close_laidOver k base b line c
  | elseIf =>
    have hk := nextBranch_laidOver k base b line .elseIf
      (onTag line Keyword.elseIf.name ((Expr.parseCondition args).map some))
    rw [← onTag_later] at hk
    exact hk
  | otherwise => exact nextBranch_laidOver k base b line _ (.ok none)
  | «include» =>
    refine read_laidOver k base fun ref => ?_
    have hnode : (Node.mk (.include ref.args) line (some ref.raw) none).later k =
        .mk (.include ref.args) (line + k) (some ref.raw) none := by
      rw [Node.later, Node.laterOf]
    rw [← hnode, laidOver_append k base b rfl]
    rfl
  | layout =>
    rw [tag, tag, layoutFile_laidOver]
    exact read_laidOver k base fun _ => rfl
  | assign =>
    refine read_laidOver k base ?_
    rintro ⟨name, value⟩
    dsimp only
    rw [← Node.later_leaf, laidOver_append k base b rfl]
    rfl
  | regionEnd r => rfl

/-- A piece without dashes is added below finished nodes as it is on its own. -/
theorem add_laidOver {p : Piece} (hp : p.Undashed) (b : Builder) :
    (b.laidOver k base).add (p.later k) = outcomeOver k base (b.add p) := by
  cases p with
  | text line s => exact congrArg Except.ok (laidOver_appendText k base b line s)
  | output line dashes body =>
    cases hp
    refine read_laidOver k base fun o => ?_
    rw [← Node.later_leaf, laidOver_undashed, laidOver_append k base _ rfl]
    rfl
  | tag line dashes name args =>
    cases hp
    rw [Piece.later, add, add]
    split
    · rfl
    · split
      · rfl
      · rw [laidOver_undashed]
        exact tag_laidOver k base _ line _ args
  | raw line opening body closing =>
    rcases hp with ⟨rfl, rfl⟩
    have htext := laidOver_appendText k base (b.applyDashes .absent) line body
    rw [← laidOver_undashed] at htext
    rw [Piece.later, add, add]
    simp only [Dashes.absent, Bool.false_eq_true, if_false] at htext ⊢
    rw [htext]
    rfl
  | comment line opening closing =>
    rcases hp with ⟨rfl, rfl⟩
    rfl

theorem addAll_laidOver {ps : List Piece} (hp : ∀ p ∈ ps, p.Undashed) (b : Builder) :
    (b.laidOver k base).addAll (ps.map (Piece.later k)) = outcomeOver k base (b.addAll ps) := by
  induction ps generalizing b with
  | nil => rfl
  | cons p ps ih =>
    rw [List.forall_mem_cons] at hp
    rw [List.map_cons, addAll_cons, addAll_cons, add_laidOver k base hp.1]
    cases b.add p with
    | error e => rfl
    | ok next => exact ih hp.2 next

theorem finishFrames_laidOver (siblings : List Node) (frames : List Frame) :
    finishFrames (siblingsOver k base frames siblings) (framesOver k base frames) =
      ((finishFrames siblings frames).map fun nodes =>
        Node.follow base.reverse (Node.laterAll k nodes)).mapError (CompileFault.later k) := by
  induction frames generalizing siblings with
  | nil =>
    rw [siblingsOver, framesOver, finishFrames, finishFrames, Node.reverse_allOnto,
      ← Node.laterAll_reverse]
    rfl
  | cons frame frames ih =>
    rw [framesOver, finishFrames, finishFrames]
    simp only [OpenTag.construct?_later]
    split
    · rw [siblingsOver, ← Node.laterAll_reverse, OpenTag.node_later,
        ← siblingsOver_cons k base (frame.tag.text?_node ..), ih]
    · rfl

/-- What is left of a source is compiled below finished nodes as it is on its own. -/
theorem compileFrom_laidOver {line : Nat} {s : List Char} (hs : Undashed s) (b : Builder) :
    (b.laidOver k base).compileFrom (line + k) s =
      ((b.compileFrom line s).map fun nodes =>
        Node.follow base.reverse (Node.laterAll k nodes)).mapError
          (Failure.map (CompileFault.later k)) := by
  rw [compileFrom, compileFrom, pieces_later, addAll_laidOver k base (undashed_of_pieces hs)]
  cases b.addAll (pieces line s).1 with
  | error e => rfl
  | ok reached =>
    cases (pieces line s).2 with
    | failed failure => rfl
    | finished =>
      have hf : (reached.laidOver k base).finish = _ :=
        finishFrames_laidOver k base reached.siblings reached.frames
      change (reached.laidOver k base).finish.mapError Failure.fault =
        ((reached.finish.mapError Failure.fault).map _).mapError _
      rw [hf]
      change ((reached.finish.map _).mapError _).mapError _ = _
      cases reached.finish <;> rfl

end Builder
end TemplateSite
