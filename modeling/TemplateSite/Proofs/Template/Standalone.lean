import TemplateSite.Proofs.Template.Concatenation
import TemplateSite.Proofs.Template.RoundTrip
import TemplateSite.Proofs.Template.Unlining

/-!
# Sources inside tags

A source that compiles on its own, without dashes and without a layout, compiles to the same nodes
inside any tags, line numbers aside: it never looks at the tags around it.
-/
namespace TemplateSite
open Text

/-- A source without dashes that compiles on its own, to nodes that are no layouts, and does not end
in the first character of a delimiter. -/
structure Standalone (s : List Char) (nodes : List Node) : Prop where
  compiled : compile (String.ofList s) = .ok nodes
  unlaid : ∀ node ∈ nodes, node.isLayout = false
  undashed : Undashed s
  last : s.getLast? ≠ some '\x7b'

namespace Builder

/-- The builder inside more tags. -/
def inside (b : Builder) (around : List Frame) : Builder :=
  { b with frames := b.frames ++ around }

/-- A layout is open. -/
def LaidOut (b : Builder) : Prop :=
  ∃ frame ∈ b.frames, frame.tag.construct? = none

theorem LaidOut.of_adds {b next : Builder} {p : Piece} (laid : b.LaidOut) (h : Adds b p next) :
    next.LaidOut := by
  rcases laid with ⟨frame, hf, hn⟩
  cases h with
  | closing line dashes c name keyword frames construct =>
    rw [frames] at hf
    rcases List.mem_cons.mp hf with rfl | hf
    · rw [construct] at hn
      cases hn
    · exact ⟨frame, hf, hn⟩
  | elseIf line dashes name keyword read frames =>
    rw [frames] at hf
    rcases List.mem_cons.mp hf with rfl | hf
    · cases hn
    · exact ⟨frame, List.mem_cons_of_mem _ hf, hn⟩
  | otherwise line dashes name keyword frames =>
    rw [frames] at hf
    rcases List.mem_cons.mp hf with rfl | hf
    · cases hn
    · exact ⟨frame, List.mem_cons_of_mem _ hf, hn⟩
  | conditional line dashes negated name keyword read =>
    exact ⟨frame, List.mem_cons_of_mem _ hf, hn⟩
  | loop line dashes name keyword read => exact ⟨frame, List.mem_cons_of_mem _ hf, hn⟩
  | block line dashes name keyword read => exact ⟨frame, List.mem_cons_of_mem _ hf, hn⟩
  | layout line dashes name keyword top read bare => exact ⟨frame, List.mem_cons_of_mem _ hf, hn⟩
  | _ => exact ⟨frame, hf, hn⟩

/-- A piece is added inside more tags as it is without them, unless it is a layout. -/
theorem add_inside {b next : Builder} {p : Piece} (h : b.add p = .ok next) (unlaid : ¬ next.LaidOut)
    (around : List Frame) : (b.inside around).add p = .ok (next.inside around) := by
  have same (dashes : Dashes) :
      (b.inside around).applyDashes dashes = (b.applyDashes dashes).inside around := rfl
  cases adds_of_add h with
  | text line s => rfl
  | output line dashes body read =>
    rw [add, read]
    rfl
  | assign line dashes name keyword read =>
    rw [add_tag keyword, tag, read]
    rfl
  | «include» line dashes name keyword read =>
    rw [add_tag keyword, tag, read]
    rfl
  | conditional line dashes negated name keyword read =>
    rw [add_tag keyword, tag, read]
    rfl
  | loop line dashes name keyword read =>
    rw [add_tag keyword, tag, read]
    rfl
  | block line dashes name keyword read =>
    rw [add_tag keyword, tag, read]
    rfl
  | layout line dashes name keyword top read bare =>
    exact absurd ⟨_, List.mem_cons_self .., rfl⟩ unlaid
  | elseIf line dashes name keyword read frame =>
    rw [add_tag keyword, tag, read, same, nextBranch, inside, applyDashes_frames, frame]
    rfl
  | otherwise line dashes name keyword frame =>
    rw [add_tag keyword, tag, same, nextBranch, inside, applyDashes_frames, frame]
    rfl
  | closing line dashes c name keyword frame construct =>
    rw [add_tag keyword, tag, same, close, inside, applyDashes_frames, frame]
    simp only [List.cons_append, construct, if_true]
    rfl
  | raw line opening body closing => rfl
  | comment line opening closing => rfl

theorem addAll_inside {b reached : Builder} {ps : List Piece} (h : b.addAll ps = .ok reached)
    (unlaid : ¬ reached.LaidOut) (around : List Frame) :
    (b.inside around).addAll ps = .ok (reached.inside around) := by
  induction ps generalizing b with
  | nil =>
    cases h
    rfl
  | cons p ps ih =>
    rw [addAll_cons] at h ⊢
    rcases bind_eq_ok_iff.mp h with ⟨next, hadd, hrest⟩
    have hnext : ¬ next.LaidOut := fun laid =>
      unlaid (addAll_keeps LaidOut.of_adds laid hrest)
    rw [add_inside hadd hnext]
    exact ih hrest

/-- A source that starts on another line is built to the same, but for the lines. -/
theorem addAll_pieces {s : List Char} {b reached : Builder} {line : Nat}
    (h : b.addAll (pieces line s).1 = .ok reached) (line' : Nat) :
    ∃ other, b.addAll (pieces line' s).1 = .ok other ∧ other.unlined = reached.unlined := by
  have same := b.addAll_unlined (pieces line' s).1
  rw [pieces_unlined line' line, addAll_unlined, h] at same
  cases hs : b.addAll (pieces line' s).1 with
  | error e =>
    rw [hs] at same
    cases same
  | ok other =>
    rw [hs] at same
    exact ⟨other, rfl, (Except.ok.inj same).symm⟩

end Builder

open Builder

/-- A source that stands alone is compiled inside any tags to the nodes that it compiles to. -/
theorem Standalone.readsFirst {s : List Char} {nodes : List Node} (h : Standalone s nodes) :
    ReadsFirst s (Node.unlinedAll nodes) := by
  intro around line rest _
  rcases compile_eq_ok h.compiled with ⟨ends, reached, hadd, hfinish⟩
  rw [String.toList_ofList] at ends hadd
  have hframes : reached.frames = [] ∧ nodes = reached.siblings.reverse := by
    rcases reached with ⟨_ | ⟨frame, frames⟩, siblings, trimNext⟩
    · cases hfinish
      exact ⟨rfl, rfl⟩
    · rcases exists_layout_of_finishFrames hfinish with ⟨node, hn, hl⟩
      rw [h.unlaid node hn] at hl
      cases hl
  rcases addAll_pieces hadd line with ⟨⟨frames, siblings, trimNext⟩, hother, same⟩
  simp only [unlined, Builder.mk.injEq, hframes.1, List.map_nil, List.map_eq_nil_iff] at same
  rcases same with ⟨rfl, hsiblings, -⟩
  have untrims := trimNext_addAll rfl (undashed_of_pieces h.undashed) hother
  cases untrims
  have unlaid : ¬ (Builder.mk [] siblings false).LaidOut := by
    rintro ⟨frame, hf, -⟩
    cases hf
  have hover := addAll_inside hother unlaid around
  refine ⟨line + lineEnds s, siblings.reverse, ?_, ?_⟩
  · rw [hframes.2, Node.unlinedAll_reverse, Node.unlinedAll_reverse, hsiblings]
  · rw [List.reverse_reverse]
    exact compileFrom_append h.undashed rfl (finished_of_pieces ends line) hover h.last rest

end TemplateSite
