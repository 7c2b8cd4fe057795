import TemplateSite.Proofs.Template.Building
import TemplateSite.Proofs.Template.Following

/-!
# Refused tags and tags left open

A source is refused for its first tag that does not fit where it stands, whatever comes after it. A
source all of whose tags fit is refused for the innermost one that is left open.
-/
namespace TemplateSite

/-- Whether a fault is one of a single tag or output, which is there whatever follows it. -/
def CompileFault.ofTag : CompileFault → Bool
  | .unknownTag _ _ | .unexpectedTag _ _ | .invalid _ _ _ => true
  | .unterminated _ _ | .unclosed _ _ => false

namespace Builder

/-- A fault of the tag or the output on the given line. -/
structure Blames (line : Nat) (e : CompileFault) : Prop where
  ofTag : e.ofTag = true
  place : e.line = line

theorem blames_of_onTag {α : Type} {line : Nat} {tag : String} {read : Except SyntaxFault α}
    {e : CompileFault} (h : onTag line tag read = .error e) : Blames line e := by
  rcases mapError_eq_error_iff.mp h with ⟨fault, -, rfl⟩
  exact ⟨rfl, rfl⟩

theorem blames_of_read {α β : Type} {line : Nat} {tag : String} {read : Except SyntaxFault α}
    {f : α → β} {e : CompileFault}
    (h : (onTag line tag read >>= fun a => pure (f a)) = .error e) : Blames line e := by
  rcases bind_eq_error_iff.mp h with h | ⟨a, -, h⟩
  · exact blames_of_onTag h
  · cases h

theorem blames_of_nextBranch {b : Builder} {line : Nat} {keyword : Keyword}
    {test : Except CompileFault (Option Expr)} {e : CompileFault}
    (ht : ∀ e, test = .error e → Blames line e)
    (h : b.nextBranch line keyword test = .error e) : Blames line e := by
  rw [nextBranch] at h
  split at h
  · rcases bind_eq_error_iff.mp h with h | ⟨found, -, h⟩
    · exact ht e h
    · cases h
  · cases h
    exact ⟨rfl, rfl⟩

theorem blames_of_close {b : Builder} {line : Nat} {c : Construct} {e : CompileFault}
    (h : b.close line c = .error e) : Blames line e := by
  rw [close] at h
  split at h
  · split at h
    · cases h
    · cases h
      exact ⟨rfl, rfl⟩
  · cases h
    exact ⟨rfl, rfl⟩

theorem blames_of_tag {b : Builder} {line : Nat} {keyword : Keyword} {args : List Char}
    {e : CompileFault} (h : b.tag line keyword args = .error e) : Blames line e := by
  cases keyword with
  | opening c => cases c <;> exact blames_of_read h
  | closing c => exact blames_of_close h
  | elseIf => exact blames_of_nextBranch (fun _ => blames_of_onTag) h
  | otherwise =>
    refine blames_of_nextBranch ?_ h
    rintro _ ⟨⟩
  | «include» => exact blames_of_read h
  | layout => exact blames_of_read h
  | assign => exact blames_of_read h
  | regionEnd r =>
    cases h
    exact ⟨rfl, rfl⟩

/-- A piece that is refused is an output or a tag, and the fault is its own. -/
theorem blames_of_add {b : Builder} {p : Piece} {e : CompileFault} (h : b.add p = .error e) :
    p.delimited = true ∧ Blames p.line e := by
  cases p with
  | text line s => cases h
  | output line dashes body => exact ⟨rfl, blames_of_read h⟩
  | tag line dashes name args =>
    refine ⟨rfl, ?_⟩
    rw [add] at h
    split at h
    · cases h
      exact ⟨rfl, rfl⟩
    · split at h
      · cases h
        exact ⟨rfl, rfl⟩
      · exact blames_of_tag h
  | raw line opening body closing => cases h
  | comment line opening closing => cases h

theorem ofTag_of_addAll {b : Builder} {ps : List Piece} {e : CompileFault}
    (h : b.addAll ps = .error e) : e.ofTag = true := by
  induction ps generalizing b with
  | nil => cases h
  | cons p ps ih =>
    rw [addAll_cons] at h
    rcases bind_eq_error_iff.mp h with hp | ⟨next, -, h⟩
    · exact (blames_of_add hp).2.ofTag
    · exact ih h

end Builder

/-- How the cutting of a source can fail: in a delimiter that is never closed, in a region that is
never closed, or by breaking down. -/
inductive CutFails : Failure CompileFault → Prop where
  | unterminated (line : Nat) (delimiter : Delimiter) :
    CutFails (.fault (.unterminated line delimiter))
  | unclosed (line : Nat) (region : Region) : CutFails (.fault (.unclosed line region.name))
  | breakdown : CutFails .breakdown

theorem CutFails.ofTag {e : CompileFault} (h : CutFails (.fault e)) : e.ofTag = false := by
  cases h <;> rfl

theorem cutFails_of_cutRegion {region : Region} {start line : Nat} {opening : Dashes}
    {s : List Char} {failure : Failure CompileFault}
    (h : cutRegion region start opening line s = .stop (.failed failure)) : CutFails failure := by
  rw [cutRegion] at h
  split at h
  · cases region <;> cases h
  · cases h
    exact .unclosed start region
  · cases h
    exact .unterminated _ .tag
  · cases h
    exact .breakdown

theorem cutFails_of_cutOutput {line : Nat} {s : List Char} {failure : Failure CompileFault}
    (h : cutOutput line s = .stop (.failed failure)) : CutFails failure := by
  rw [cutOutput] at h
  split at h
  · cases h
    exact .unterminated line .output
  · cases h

theorem cutFails_of_cutTag {line : Nat} {s : List Char} {failure : Failure CompileFault}
    (h : cutTag line s = .stop (.failed failure)) : CutFails failure := by
  rw [cutTag] at h
  split at h
  · cases h
    exact .unterminated line .tag
  · simp only at h
    split at h
    · exact cutFails_of_cutRegion h
    · cases h

theorem cutFails_of_cut {line : Nat} {s : List Char} {failure : Failure CompileFault}
    (h : cut line s = .stop (.failed failure)) : CutFails failure := by
  rw [cut] at h
  simp only at h
  split at h
  · rw [cutDelimited.eq_def] at h
    split at h
    · split at h
      · exact cutFails_of_cutOutput h
      · exact cutFails_of_cutTag h
    · cases h
  · cases h

theorem cutFails_of_pieces {line : Nat} {s : List Char} {failure : Failure CompileFault}
    (h : (pieces line s).2 = .failed failure) : CutFails failure := by
  induction line, s using pieces.induct with
  | case1 line s stop hc =>
    rw [pieces_of_stop hc] at h
    cases h
    exact cutFails_of_cut hc
  | case2 line s p line' rest hc more stop hm ih =>
    rw [pieces_of_piece hc] at h
    exact ih h

namespace Builder

theorem finishFrames_eq_error {siblings : List Node} {frames : List Frame} {e : CompileFault}
    (h : finishFrames siblings frames = .error e) :
    ∃ layouts frame more c, frames = layouts ++ frame :: more ∧
      (∀ f ∈ layouts, f.tag.construct? = none) ∧ frame.tag.construct? = some c ∧
      e = .unclosed frame.line c.name := by
  induction frames generalizing siblings with
  | nil => cases h
  | cons frame frames ih =>
    rw [finishFrames] at h
    split at h
    · rename_i hf
      rcases ih h with ⟨layouts, found, more, c, rfl, hl, hc, he⟩
      exact ⟨frame :: layouts, found, more, c, rfl, List.forall_mem_cons.mpr ⟨hf, hl⟩, hc, he⟩
    · rename_i c hc
      cases h
      exact ⟨[], frame, frames, c, rfl, by simp, hc, rfl⟩

/-- Where the cutting stops, the fault is not that of a single tag. -/
theorem ofTag_of_stop {b : Builder} {line : Nat} {s : List Char} {stop : Stop} {e : CompileFault}
    (hc : cut line s = .stop stop) (h : b.stop stop = .error (.fault e)) : e.ofTag = false := by
  cases stop with
  | finished =>
    rcases mapError_eq_error_iff.mp h with ⟨cause, hf, he⟩
    cases he
    rcases finishFrames_eq_error hf with ⟨-, frame, -, c, -, -, -, rfl⟩
    rfl
  | failed failure =>
    cases h
    exact (cutFails_of_cut hc).ofTag

/-- From a builder, on the given line, the stretch `tag` is the first that is refused in a source
which continues with it after `before`: all pieces before it are accepted, its own fault is the one
reported, and what follows it does not matter. -/
structure Offends (b : Builder) (line : Nat) (e : CompileFault) (before tag : List Char) :
    Prop where
  cut : (pieces line before).2 = .finished
  refused : ∃ reached p, b.addAll (pieces line before).1 = .ok reached ∧ p.Spelled tag ∧
    p.delimited = true ∧ reached.add p = .error e
  place : e.line = line + lineEnds before
  lasting : ∀ more, b.compileFrom line (before ++ (tag ++ more)) = .error (.fault e)

/-- The first refused tag is found after a piece that is accepted. -/
theorem Offends.cons {b next : Builder} {line line' : Nat} {e : CompileFault}
    {chunk before tag after : List Char} {p : Piece}
    (hc : TemplateSite.cut line (chunk ++ (before ++ (tag ++ after))) =
      .piece p line' (before ++ (tag ++ after)))
    (hp : b.add p = .ok next) (hb : p.delimited = false → Opens before)
    (h : next.Offends line' e before tag) : b.Offends line e (chunk ++ before) tag := by
  have nonempty : before ++ (tag ++ after) ≠ [] := by
    rcases h.refused with ⟨-, q, -, spelled, hq, -⟩
    rcases spelled.opens hq with ⟨d, tail, rfl, -⟩
    simp
  have elsewhere {t : List Char} (ht : p.delimited = false → Opens t) :
      TemplateSite.cut line (chunk ++ t) = .piece p line' t := by
    refine cut_front hc ?_
    cases hd : p.delimited with
    | true => exact Or.inl rfl
    | false => exact Or.inr ⟨nonempty, ht hd⟩
  have hbefore := pieces_of_piece (elsewhere hb)
  refine ⟨?_, ?_, ?_, ?_⟩
  · rw [hbefore]
    exact h.cut
  · rcases h.refused with ⟨reached, q, hr, spelled, hq, refused⟩
    refine ⟨reached, q, ?_, spelled, hq, refused⟩
    rw [hbefore, addAll_cons, hp]
    exact hr
  · rcases cut_eq_piece hc with ⟨_, eq, -, -, hline⟩
    rw [h.place, hline, List.append_cancel_right eq, lineEnds_append, Nat.add_assoc]
  · intro more
    rcases h.refused with ⟨-, q, -, spelled, hq, -⟩
    have hmore := elsewhere fun hd => (hb hd).append (spelled.opens_append hq more)
    rw [List.append_assoc, compileFrom_of_piece hmore hp]
    exact h.lasting more

theorem compileFrom_of_refused {b : Builder} {line line' : Nat} {s rest : List Char} {p : Piece}
    {e : CompileFault} (hc : TemplateSite.cut line s = .piece p line' rest)
    (hp : b.add p = .error e) : b.compileFrom line s = .error (.fault e) := by
  rw [compileFrom, pieces_of_piece hc, addAll_cons, hp]
  rfl

theorem exists_offends {b : Builder} {line : Nat} {s : List Char} {e : CompileFault}
    (h : b.compileFrom line s = .error (.fault e)) (he : e.ofTag = true) :
    ∃ before tag after, s = before ++ (tag ++ after) ∧ (Opens s → Opens before) ∧
      b.Offends line e before tag := by
  induction line, s using pieces.induct generalizing b with
  | case1 line s stop hc =>
    rw [compileFrom_of_stop hc] at h
    rw [ofTag_of_stop hc h] at he
    cases he
  | case2 line s p line' rest hc more stop hm ih =>
    rcases cut_eq_piece hc with ⟨chunk, rfl, spelled, place, -⟩
    cases hp : b.add p with
    | error cause =>
      rw [compileFrom_of_refused hc hp] at h
      cases h
      rcases blames_of_add hp with ⟨hd, blames⟩
      refine ⟨[], chunk, rest, rfl, fun _ => Or.inl rfl, ?_, ?_, ?_, ?_⟩
      · rw [pieces_nil]
      · refine ⟨b, p, ?_, spelled, hd, hp⟩
        rw [pieces_nil]
        rfl
      · rw [blames.place, place, lineEnds_nil, Nat.add_zero]
      · intro more
        rw [List.nil_append]
        exact compileFrom_of_refused (cut_front hc (Or.inl hd)) hp
    | ok next =>
      rw [compileFrom_of_piece hc hp] at h
      rcases ih h with ⟨before, tag, after, rfl, hopens, offends⟩
      refine ⟨chunk ++ before, tag, after, by simp, ?_, offends.cons hc hp ?_⟩
      · intro hs
        rw [hs.cut] at hc
        exact spelled.opens_append (cutDelimited_delimited hc) before
      · intro hd
        exact hopens (text_of_cut hc hd).2.2.2.1

end Builder
end TemplateSite
