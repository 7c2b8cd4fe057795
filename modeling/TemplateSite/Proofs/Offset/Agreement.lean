import TemplateSite.Proofs.Offset.Searches
import TemplateSite.Proofs.Template.Overlap

/-!
# The walk by offsets compiles the source

A turn of the walk takes the text and the output, the tag or the region that are cut off the rest of
the source, and leaves the stacks of the builder to which these pieces have been added. By induction
on the rest of the source, the walk ends as compiling from that builder does: its slices lie in the
source and on characters, its line counter does not fall below zero and its stacks are not empty,
and it breaks down only where the search for the end of a region does.
-/
namespace TemplateSite.Offset
open TemplateSite.Text Walk Builder

/-- Where a walk stands when the next piece has been added to its builder, or how it fails. -/
def landing (b : Builder) (src counted : List Char) : Cut → Answer Walk
  | .piece p _ rest =>
    ((b.add p).map fun b => { place b [] counted with pos := size src - size rest }).mapError .fault
  | .stop (.failed failure) => .error failure
  | .stop .finished => .ok (place b src counted)

/-- Compiling starts with the text before the first opening delimiter. -/
theorem compileFrom_opening (b : Builder) (line : Nat) (rest : List Char) : b.compileFrom line rest =
    (if (splitAtOpening rest).1 = [] then b
      else b.appendText line (splitAtOpening rest).1).compileFrom
        (line + lineEnds (splitAtOpening rest).1) (splitAtOpening rest).2 := by
  have hsplit := splitAtOpening_append rest
  by_cases ht : (splitAtOpening rest).1 = []
  · rw [ht, List.nil_append] at hsplit
    rw [if_pos ht, ht, hsplit]
    rfl
  · have hcut : cut line rest = .piece (.text line (splitAtOpening rest).1)
        (line + lineEnds (splitAtOpening rest).1) (splitAtOpening rest).2 := by
      rw [cut]
      simp only
      rw [if_neg (by simpa using ht)]
    rw [if_neg ht, compileFrom_of_piece hcut rfl]

/-- From every place before the given rest of the source, the walk ends as compiling does, wherever
the line counter stands. -/
def Agrees (src rest : List Char) : Prop :=
  ∀ (b : Builder) {before counted z : List Char}, src = before ++ rest → src = counted ++ z →
    (place b before counted).run src = b.compileFrom (1 + lineEnds before) rest

section

variable (b : Builder) {src before counted rest z : List Char} (hs : src = before ++ rest)
  (hc : src = counted ++ z)

include hs

theorem dropTo_place : dropTo (place b before counted).pos src = (.ok rest : Answer _) := by
  rw [hs]
  exact dropTo_size before rest

/-- After a piece that is accepted the walk stands behind the stretch that spells it. -/
theorem landing_of_add {b next : Builder} {p : Piece} {line' : Nat} {more : List Char}
    (hcut : cut (1 + lineEnds before) rest = .piece p line' more) (hadd : b.add p = .ok next) :
    ∃ chunk, rest = chunk ++ more ∧ chunk ≠ [] ∧ line' = 1 + lineEnds (before ++ chunk) ∧
      landing b src before (.piece p line' more) = .ok (place next (before ++ chunk) before) := by
  have hlength := cut_length hcut
  rcases cut_eq_piece hcut with ⟨chunk, front⟩
  refine ⟨chunk, front.eq, ?_, by rw [front.after, lineEnds_append, Nat.add_assoc], ?_⟩
  · rintro rfl
    rw [front.eq] at hlength
    exact Nat.lt_irrefl _ hlength
  · have hend : size src - size more = size (before ++ chunk) := by
      rw [hs, front.eq, ← List.append_assoc, size_sub]
    simp only [landing, hadd, hend]
    rfl

theorem run_end (hr : rest = []) : (place b before counted).run src =
    b.compileFrom (1 + lineEnds before) rest := by
  have hpos : ¬ (place b before counted).pos < size src := by
    rw [hs, hr, List.append_nil]
    exact Nat.lt_irrefl _
  rw [run, if_neg hpos, finish_place, hr, compileFrom_of_stop rfl]
  rfl

theorem pos_lt (hr : rest ≠ []) : (place b before counted).pos < size src := by
  have := size_pos hr
  rw [hs, size_append]
  exact Nat.lt_add_of_pos_right this

include hc

theorem lineAt_pos : (place b before counted).lineAt src (place b before counted).pos =
    .ok (1 + lineEnds before, place b before before) :=
  lineAt_place b before hc hs

/-- The walk goes on after a tag, with the region that it may open, as the cutting of the source
does. -/
theorem handleTag_place (inner : List Char) (dashes : Dashes) (start : Nat) :
    (place (b.applyDashes dashes) before counted).handleTag src (trim inner) start =
      landing b src counted
        (match Region.ofName? (splitName inner).1 with
        | some region => cutRegion region start dashes (1 + lineEnds before) rest
        | none =>
          .piece (.tag start dashes (splitName inner).1 (splitName inner).2) (1 + lineEnds before)
            rest) := by
  have hpos : size src - size rest = size before := by rw [hs, size_sub]
  rw [handleTag, splitBody_eq]
  rcases splitName inner with ⟨name, args⟩
  simp only [bind, Except.bind]
  by_cases hn : name.isEmpty = true
  · have hname : name = [] := List.isEmpty_iff.mp hn
    subst hname
    rfl
  · rw [if_neg hn]
    cases hr : Region.ofName? name with
    | none =>
      simp only [landing, Builder.add, if_neg hn, hpos]
      cases Keyword.ofName? name with
      | none => rfl
      | some keyword => exact tag_place before counted (b.applyDashes dashes) start keyword args
    | some region =>
      have hfront : src = before ++ ([] ++ rest) := hs
      have hsearch := takeUntil_place hc (b.applyDashes dashes) region start hfront
      rw [List.append_nil] at hsearch
      have hsearch : (place (b.applyDashes dashes) before counted).takeUntil src region start
          (place (b.applyDashes dashes) before counted).pos = _ := hsearch
      simp only [cutRegion]
      cases region with
      | raw =>
        rw [hsearch]
        cases findRegionEnd .raw (1 + lineEnds before) rest with
        | found body closing line after =>
          simp only [searched, List.nil_append, appendText_moved]
          rfl
        | _ => rfl
      | comment =>
        rw [hsearch]
        cases findRegionEnd .comment (1 + lineEnds before) rest <;> rfl

theorem delimited_output {s : List Char} (hr : rest = '\x7b' :: '\x7b' :: s) :
    (place b before counted).delimited src =
      landing b src before (cutOutput (1 + lineEnds before) s) := by
  have hopen : ['\x7b', '\x7b'].isPrefixOf rest = true := by
    rw [hr]
    rfl
  rw [delimited]
  simp only [lineAt_pos b hs hc, bind, Except.bind, dropTo_place b hs, if_pos hopen]
  rw [hr, bodyOf_eq rfl, cutOutput]
  cases hsplit : splitAtClosing '\x7d' none s with
  | none => rfl
  | some found =>
    rcases found with ⟨body, after⟩
    rw [hr, splitAtClosing_eq hsplit] at hs
    have hend := pos_after rfl rfl hs
    simp only [Option.map_some, applyDash_place, readOutput_eq, onTag_fault, landing, Builder.add]
    cases hread : Builder.onTag (1 + lineEnds before) "output"
        (Output.parse (TemplateSite.stripDashes body).1) with
    | error e => rfl
    | ok output =>
      simp only [mapError_ok, append_place, ← hend]
      rfl

theorem delimited_tag {s : List Char} (hr : rest = '\x7b' :: '%' :: s) :
    (place b before counted).delimited src =
      landing b src before (cutTag (1 + lineEnds before) s) := by
  have hopen : ¬ ['\x7b', '\x7b'].isPrefixOf rest = true := by
    simp [hr]
  rw [delimited]
  simp only [lineAt_pos b hs hc, bind, Except.bind, dropTo_place b hs, if_neg hopen]
  rw [hr, bodyOf_eq rfl, cutTag]
  cases hsplit : splitAtClosing '%' none s with
  | none => rfl
  | some found =>
    rcases found with ⟨body, after⟩
    have hsrc := hs
    rw [hr, splitAtClosing_eq hsplit] at hsrc
    have hend := pos_after rfl rfl hsrc
    -- The walk now stands after the tag.
    have hafter : src = (before ++ '\x7b' :: '%' :: (body ++ ['%', '\x7d'])) ++ after := by
      rw [hsrc]
      simp
    have hplace : size before + (2 + size body + 2) =
        size (before ++ '\x7b' :: '%' :: (body ++ ['%', '\x7d'])) := by
      rw [hend, hafter, size_sub]
    have hlines : 1 + lineEnds (before ++ '\x7b' :: '%' :: (body ++ ['%', '\x7d'])) =
        1 + lineEnds before + lineEnds body := by
      simp [lineEnds, Nat.add_assoc]
    have hhandle := handleTag_place b hafter hs (TemplateSite.stripDashes body).1
      (TemplateSite.stripDashes body).2 (1 + lineEnds before)
    rw [hlines] at hhandle
    simp only [Option.map_some, applyDash_place]
    refine Eq.trans ?_ hhandle
    rw [place, place, ← hplace]
    rfl

/-- The walk goes over what stands between delimiters as the cutting of the source does. -/
theorem delimited_place (hopen : Opens rest) (hne : rest ≠ []) :
    (place b before counted).delimited src =
      landing b src before (cut (1 + lineEnds before) rest) := by
  rw [hopen.cut]
  rcases hopen with rfl | ⟨d, s, rfl, rfl | rfl⟩
  · exact absurd rfl hne
  · exact delimited_output b hs hc rfl
  · exact delimited_tag b hs hc rfl

theorem turn_last (hlast : (splitAtOpening rest).2 = []) : (place b before counted).turn src =
    .ok (place (b.appendText (1 + lineEnds before) rest) before before, true) := by
  rw [turn]
  simp only [dropTo_place b hs, bind, Except.bind, nearest_opening, hlast, List.isEmpty_nil, if_true,
    lineAt_pos b hs hc, appendText_place]
  rfl

/-- A turn goes over the text before an opening delimiter and over what that delimiter opens. -/
theorem turn_opening (hnext : (splitAtOpening rest).2 ≠ []) :
    (place b before counted).turn src =
      (landing (if (splitAtOpening rest).1 = [] then b
          else b.appendText (1 + lineEnds before) (splitAtOpening rest).1)
        src (before ++ (splitAtOpening rest).1)
        (cut (1 + lineEnds (before ++ (splitAtOpening rest).1)) (splitAtOpening rest).2)).map
      (·, false) := by
  have hsplit := splitAtOpening_append rest
  have hopen : Opens (splitAtOpening rest).2 := splitAtOpening_after rest
  have hnear := nearest_opening rest
  rw [if_neg (by simpa using hnext)] at hnear
  generalize splitAtOpening rest = parts at hnext hsplit hopen hnear ⊢
  rcases parts with ⟨text, after⟩
  simp only at hnext hsplit hopen hnear ⊢
  rw [turn]
  simp only [dropTo_place b hs, bind, Except.bind, hnear]
  by_cases ht : text = []
  · subst ht
    rw [List.nil_append] at hsplit
    subst hsplit
    have hdelimited := delimited_place b hs hc hopen hnext
    rw [List.append_nil, if_pos rfl]
    simp only [size_nil, Nat.lt_irrefl, if_false, pure, Except.pure, Nat.add_zero]
    rw [← hdelimited]
    cases (place b before counted).delimited src <;> rfl
  · have hsrc : src = (before ++ text) ++ after := by rw [hs, ← hsplit, List.append_assoc]
    have htake : takeTo (size text) rest = (.ok text : Answer _) := by
      rw [← hsplit]
      exact takeTo_size text after
    have hdelimited := delimited_place (b.appendText (1 + lineEnds before) text) hsrc hs hopen hnext
    have hmove : { place (b.appendText (1 + lineEnds before) text) before before with
        pos := (place (b.appendText (1 + lineEnds before) text) before before).pos + size text } =
        place (b.appendText (1 + lineEnds before) text) (before ++ text) before := by
      rw [place, place, size_append]
    rw [if_neg ht, if_pos (size_pos ht)]
    simp only [lineAt_pos b hs hc, htake, appendText_place, hmove, hdelimited]
    cases landing (b.appendText (1 + lineEnds before) text) src (before ++ text)
      (cut (1 + lineEnds (before ++ text)) after) <;> rfl

theorem run_last (hr : rest ≠ []) (hlast : (splitAtOpening rest).2 = []) :
    (place b before counted).run src = b.compileFrom (1 + lineEnds before) rest := by
  have hsplit := splitAtOpening_append rest
  rw [hlast, List.append_nil] at hsplit
  rw [run, if_pos (pos_lt b hs hr), turn_last b hs hc hlast, compileFrom_opening b, hlast, hsplit,
    if_neg hr, compileFrom_of_stop rfl]
  exact finish_place before before _

/-- If the walk ends as compiling does from every later place, it does so from a place before an
opening delimiter. -/
theorem run_opening (hnext : (splitAtOpening rest).2 ≠ [])
    (further : ∀ more, more.length < rest.length → Agrees src more) :
    (place b before counted).run src = b.compileFrom (1 + lineEnds before) rest := by
  have hr : rest ≠ [] := by
    rintro rfl
    exact hnext rfl
  rw [run, if_pos (pos_lt b hs hr), turn_opening b hs hc hnext, compileFrom_opening b]
  have hsplit := splitAtOpening_append rest
  generalize (if (splitAtOpening rest).1 = [] then b
    else b.appendText (1 + lineEnds before) (splitAtOpening rest).1) = reached
  generalize splitAtOpening rest = parts at hnext hsplit ⊢
  rcases parts with ⟨text, after⟩
  simp only at hnext hsplit ⊢
  have hline : 1 + lineEnds before + lineEnds text = 1 + lineEnds (before ++ text) := by
    rw [lineEnds_append, Nat.add_assoc]
  rw [hline]
  cases hcut : cut (1 + lineEnds (before ++ text)) after with
  | stop stop =>
    rw [compileFrom_of_stop hcut]
    cases stop with
    | finished => exact absurd (cut_eq_finished hcut) hnext
    | failed failure => rfl
  | piece p line' more =>
    cases hadd : reached.add p with
    | error e =>
      rw [compileFrom_of_refused hcut hadd]
      simp only [landing, hadd]
      rfl
    | ok next =>
      rw [compileFrom_of_piece hcut hadd]
      have hsrc : src = (before ++ text) ++ after := by
        rw [hs, ← hsplit, List.append_assoc]
      rcases landing_of_add hsrc hcut hadd with ⟨chunk, rfl, hchunk, rfl, hland⟩
      have hrest : src = (before ++ text ++ chunk) ++ more := by simp [hsrc]
      have hshort : more.length < rest.length := by
        have := List.length_pos_iff.mpr hchunk
        simp only [← hsplit, List.length_append]
        omega
      have hadvance : (place b before counted).pos <
          (place next (before ++ text ++ chunk) (before ++ text)).pos := by
        have := size_pos hchunk
        simp only [place, size_append]
        omega
      rw [hland]
      simp only [Except.map, if_pos hadvance]
      exact further more hshort next hrest hsrc

end

/-- The walk from a place of the source on ends as compiling from there does. -/
theorem agrees (src rest : List Char) : Agrees src rest := by
  induction h : rest.length using Nat.strong_induction_on generalizing rest with
  | _ n ih =>
    subst h
    intro b before counted z hs hc
    by_cases hr : rest = []
    · exact run_end b hs hr
    · by_cases hlast : (splitAtOpening rest).2 = []
      · exact run_last b hs hc hr hlast
      · exact run_opening b hs hc hlast fun more hmore => ih more.length hmore more rfl

/-- The walk by offsets gives what compiling gives, on every source. -/
theorem compile_eq (source : String) : compile source = TemplateSite.compile source :=
  have whole : source.toList = [] ++ source.toList := rfl
  agrees source.toList source.toList Builder.empty whole whole

/-- Of the slices, the subtractions and the stacks of the walk, only one slice can fail: the body of
a tag that is tried as the end of a region, where its delimiters overlap before any end tag of the
region. Every other source gives a tree or a fault. -/
theorem compile_breaksDown_iff (source : String) :
    compile source = TemplateSite.compile source ∧
      (compile source = .error .breakdown ↔
        ∃ (region : Region) (after : List Char), region.Derails source.toList after) ∧
      ((∃ result : Except CompileFault (List Node), compile source = result.mapError .fault) ↔
        ¬ ∃ (region : Region) (after : List Char), region.Derails source.toList after) := by
  have breaks : compile source = .error .breakdown ↔
      ∃ (region : Region) (after : List Char), region.Derails source.toList after := by
    rw [compile_eq]
    exact compile_eq_breakdown_iff source
  refine ⟨compile_eq source, breaks, ?_⟩
  rw [← breaks]
  constructor
  · rintro ⟨result, h⟩ hb
    rw [hb] at h
    rcases mapError_eq_error_iff.mp h.symm with ⟨e, -, he⟩
    cases he
  · intro h
    cases hc : compile source with
    | ok nodes => exact ⟨.ok nodes, rfl⟩
    | error failure =>
      cases failure with
      | fault e => exact ⟨.error e, rfl⟩
      | breakdown => exact absurd hc h

example : compile "\x7b% raw %\x7d\x7b%\x7d\x7b% endraw %\x7d" = .error .breakdown := by
  rw [compile_eq]
  exact map_eq_error_iff.mp (by decide +kernel :
    (TemplateSite.compile "\x7b% raw %\x7d\x7b%\x7d\x7b% endraw %\x7d").map (fun _ => ()) =
      .error .breakdown)

end TemplateSite.Offset
