import TemplateSite.Proofs.Template.Grafting

/-!
# Sources that follow each other

Without dashes, nothing of a source that compiles leaks into one that follows it: the second part is
compiled as if it stood alone, further down, and its nodes follow those of the first part. Only a
text at the end of the first part is continued by a text at the start of the second one.
-/
namespace TemplateSite
open Text

def Node.isLayout (node : Node) : Bool :=
  match node.kind with
  | .layout => true
  | _ => false

namespace Builder

theorem Adds.trimNext {b b' : Builder} {p : Piece} (h : Adds b p b') (hp : p.Undashed) :
    b'.trimNext = false := by
  cases h with
  | text line s => rfl
  | raw line opening body closing =>
    rcases hp with ⟨-, rfl⟩
    rfl
  | comment line opening closing =>
    rcases hp with ⟨-, rfl⟩
    rfl
  | _ =>
    cases hp
    rfl

theorem joinText_append {s : List Char} (hs : s.isEmpty = false) (line l : Nat) (t : List Char)
    (siblings : List Node) :
    joinText line (s ++ t) siblings = joinText l t (joinText line s siblings) := by
  by_cases ht : t.isEmpty = true
  · rw [joinText_of_isEmpty ht, List.isEmpty_iff.mp ht, List.append_nil]
  · have ht : t.isEmpty = false := by simpa using ht
    have hst : (s ++ t).isEmpty = false := by
      cases s with
      | nil => cases hs
      | cons c s => rfl
    rcases text_or_no_text siblings with ⟨u, l', file, children, rest, rfl⟩ | hn
    · rw [joinText_of_text hst, joinText_of_text hs, joinText_of_text ht, String.ofList_append,
        String.append_assoc]
    · rw [joinText_of_no_text hst line hn, joinText_of_no_text hs line hn, Node.leaf, Node.leaf,
        joinText_of_text ht, String.ofList_append]

/-- Two texts that follow each other are one text. -/
theorem appendText_append {b : Builder} (hb : b.trimNext = false) {s : List Char} (hs : s ≠ [])
    (line l : Nat) (t : List Char) :
    b.appendText line (s ++ t) = (b.appendText line s).appendText l t := by
  have hs : s.isEmpty = false := by simpa using hs
  rw [appendText, appendText, appendText, hb]
  exact congrArg (fun siblings => Builder.mk _ siblings _) (joinText_append hs line l t b.siblings)

/-- A text can be added before what follows it is cut. -/
theorem compileFrom_text {b : Builder} (hb : b.trimNext = false) {s : List Char} (hs : s ≠ [])
    (plain : Plain s) (last : s.getLast? ≠ some '\x7b') (line : Nat) (t : List Char) :
    b.compileFrom line (s ++ t) = (b.appendText line s).compileFrom (line + lineEnds s) t := by
  have hcut : cut line (s ++ t) = .piece (.text line (s ++ (splitAtOpening t).1))
      (line + lineEnds s + lineEnds (splitAtOpening t).1) (splitAtOpening t).2 := by
    rw [cut, splitAtOpening_append_text plain last]
    simp [hs, Nat.add_assoc]
  have hadd : b.add (.text line (s ++ (splitAtOpening t).1)) =
      .ok (b.appendText line (s ++ (splitAtOpening t).1)) := rfl
  rw [compileFrom_of_piece hcut hadd]
  by_cases ht : (splitAtOpening t).1 = []
  · have hopens : (splitAtOpening t).2 = t := by
      have := splitAtOpening_append t
      rwa [ht, List.nil_append] at this
    rw [ht, hopens, List.append_nil, lineEnds_nil, Nat.add_zero]
  · have hnext : cut (line + lineEnds s) t =
        .piece (.text (line + lineEnds s) (splitAtOpening t).1)
          (line + lineEnds s + lineEnds (splitAtOpening t).1) (splitAtOpening t).2 := by
      rw [cut]
      simp [ht]
    rw [compileFrom_of_piece hnext rfl, appendText_append hb hs line (line + lineEnds s)]

/-- A source that is cut to its end and accepted can be added before what follows it is cut. -/
theorem compileFrom_append {b reached : Builder} {line : Nat} {s : List Char} (hs : Undashed s)
    (hb : b.trimNext = false) (hc : (pieces line s).2 = .finished)
    (ha : b.addAll (pieces line s).1 = .ok reached) (last : s.getLast? ≠ some '\x7b')
    (t : List Char) :
    b.compileFrom line (s ++ t) = reached.compileFrom (line + lineEnds s) t := by
  induction line, s using pieces.induct generalizing b with
  | case1 line s stop hstop =>
    rw [pieces_of_stop hstop] at hc ha
    cases hc
    cases ha
    rw [cut_eq_finished hstop]
    rfl
  | case2 line s p line' rest hp more stop hm ih =>
    rw [pieces_of_piece hp] at hc ha
    rw [addAll_cons] at ha
    rcases bind_eq_ok_iff.mp ha with ⟨next, hadd, ha⟩
    rcases cut_eq_piece hp with ⟨chunk, rfl, spelled, place, after⟩
    have hrest : Undashed rest := hs.of_infix (List.suffix_append _ _).isInfix
    have hchunk : p.Undashed := spelled.undashed (hs.of_infix (List.prefix_append _ _).isInfix)
    have hnext := (adds_of_add hadd).trimNext hchunk
    have hlast : rest.getLast? ≠ some '\x7b' := by
      cases rest with
      | nil => simp
      | cons c rest => rwa [List.getLast?_append_of_ne_nil _ (by simp)] at last
    rw [List.append_assoc, lineEnds_append, ← Nat.add_assoc, ← after, ← ih hrest hnext hc ha hlast]
    by_cases hd : p.delimited = true
    · exact compileFrom_of_piece (cut_front hp (Or.inl hd)) hadd
    · rcases text_of_cut hp (by simpa using hd) with ⟨rfl, nonempty, plain, -, hbefore⟩
      cases hadd
      rw [after]
      refine compileFrom_text hb nonempty plain ?_ line (rest ++ t)
      cases rest with
      | nil => rwa [List.append_nil] at last
      | cons c rest => exact hbefore (by simp)

theorem trimNext_addAll {b reached : Builder} {ps : List Piece} (hb : b.trimNext = false)
    (hp : ∀ p ∈ ps, p.Undashed) (h : b.addAll ps = .ok reached) : reached.trimNext = false := by
  induction ps generalizing b with
  | nil =>
    cases h
    exact hb
  | cons p ps ih =>
    rw [List.forall_mem_cons] at hp
    rw [addAll_cons] at h
    rcases bind_eq_ok_iff.mp h with ⟨next, hadd, h⟩
    exact ih ((adds_of_add hadd).trimNext hp.1) hp.2 h

/-- An open tag that lasts until the end of a source gives a layout. -/
theorem exists_layout_of_finishFrames {siblings nodes : List Node} {frame : Frame}
    {frames : List Frame} (h : finishFrames siblings (frame :: frames) = .ok nodes) :
    ∃ node ∈ nodes, node.isLayout = true := by
  induction frames generalizing siblings frame with
  | nil =>
    rcases frame with ⟨tag, line, outer⟩
    rw [finishFrames] at h
    cases tag with
    | layout file =>
      cases h
      exact ⟨(OpenTag.layout file).node line siblings.reverse, by simp, rfl⟩
    | _ => cases h
  | cons next frames ih =>
    rw [finishFrames] at h
    split at h
    · exact ih h
    · cases h

/-- A source that compiles to no layout leaves a builder at which only finished nodes stand. -/
theorem laidOver_empty_of_finish {b : Builder} {nodes : List Node} (ht : b.trimNext = false)
    (h : b.finish = .ok nodes) (unlaid : ∀ node ∈ nodes, node.isLayout = false) (k : Nat) :
    b = empty.laidOver k nodes.reverse := by
  rcases b with ⟨frames, siblings, trimNext⟩
  cases ht
  cases frames with
  | nil =>
    cases h
    rw [List.reverse_reverse]
    rfl
  | cons frame frames =>
    rcases exists_layout_of_finishFrames h with ⟨node, hn, hk⟩
    rw [unlaid node hn] at hk
    cases hk

end Builder

/-- Without dashes, a source that compiles without a layout and does not end in the first character
of a delimiter leaves no trace in what follows it. The second source compiles to the same nodes,
further down and after those of the first one, fails with the same fault further down, or breaks
down as it does alone. -/
theorem compile_append {a b : String} {nodes : List Node} (ha : Undashed a.toList)
    (hb : Undashed b.toList) (compiled : compile a = .ok nodes)
    (unlaid : ∀ node ∈ nodes, node.isLayout = false) (last : a.toList.getLast? ≠ some '\x7b') :
    compile (a ++ b) =
      ((compile b).map fun more =>
        Node.follow nodes (Node.laterAll (lineEnds a.toList) more)).mapError
          (Failure.map (CompileFault.later (lineEnds a.toList))) := by
  rcases Builder.compile_eq_ok compiled with ⟨hc, reached, hadd, hf⟩
  have ht := Builder.trimNext_addAll rfl (undashed_of_pieces ha) hadd
  rw [Builder.compile_eq_compileFrom, String.toList_append,
    Builder.compileFrom_append ha rfl hc hadd last,
    Builder.laidOver_empty_of_finish ht hf unlaid (lineEnds a.toList),
    Builder.compileFrom_laidOver _ _ hb, List.reverse_reverse]
  rfl

/-- Two lines that end in a text, a conditional after a text, and an `else` outside all
conditionals. -/
theorem compile_append_of_lines :
    let a := "x\n\x7b\x7b y \x7d\x7d\nz"
    let b := "w\x7b% if v %\x7d\n\x7b% endif %\x7d"
    (∃ nodes more, compile a = .ok nodes ∧ compile b = .ok more ∧
      compile (a ++ b) = .ok (Node.follow nodes (Node.laterAll 2 more))) ∧
    compile (a ++ "\n\x7b% else %\x7d") = .error (.fault (.unexpectedTag 4 "else")) := by
  intro a b
  have ha : Undashed a.toList := by
    unfold Undashed
    decide +kernel
  have hb : Undashed b.toList := by
    unfold Undashed
    decide +kernel
  have he : Undashed "\n\x7b% else %\x7d".toList := by
    unfold Undashed
    decide +kernel
  have found : (compile a).toOption.any fun nodes => nodes.all fun node => !node.isLayout := by
    decide +kernel
  rcases exists_eq_ok_of_any found with ⟨nodes, compiled, hn⟩
  have unlaid : ∀ node ∈ nodes, node.isLayout = false := by simpa using hn
  have last : a.toList.getLast? ≠ some '\x7b' := by decide +kernel
  have lines : lineEnds a.toList = 2 := by decide +kernel
  have second : (compile b).toOption.isSome := by decide +kernel
  rcases exists_eq_ok_of_isSome second with ⟨more, following⟩
  have unexpected : (compile "\n\x7b% else %\x7d").map (fun _ => ()) =
      .error (.fault (.unexpectedTag 2 "else")) := by
    decide +kernel
  refine ⟨⟨nodes, more, compiled, following, ?_⟩, ?_⟩
  · rw [compile_append ha hb compiled unlaid last, following, lines]
    rfl
  · rw [compile_append ha he compiled unlaid last, map_eq_error_iff.mp unexpected, lines]
    rfl

end TemplateSite
