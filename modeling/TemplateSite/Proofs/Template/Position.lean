import Mathlib.Data.List.Basic
import TemplateSite.Template.Pieces

/-!
# Where the pieces of a source stand

The pieces tile the source: each is spelled by a stretch of it, the stretches follow each other, and
the line of a piece is one more than the number of line ends before its stretch.
-/
namespace TemplateSite

def Piece.line : Piece → Nat
  | .text line _ => line
  | .output line _ _ => line
  | .tag line _ _ _ => line
  | .raw line _ _ _ => line
  | .comment line _ _ => line

/-- A text without an opening delimiter. -/
def Plain (s : List Char) : Prop :=
  ¬ ['\x7b', '\x7b'] <:+: s ∧ ¬ ['\x7b', '%'] <:+: s

/-- A dash where one is asked for. -/
def dash (present : Bool) : List Char :=
  if present then ['-'] else []

/-- The spelling of a body between delimiters with their dashes. The second character of the opening
delimiter and the first one of the closing delimiter are given. -/
def enclosed (first last : Char) (dashes : Dashes) (inner : List Char) : List Char :=
  '\x7b' :: first :: (dash dashes.left ++ inner ++ dash dashes.right ++ [last, '\x7d'])

abbrev enclosedTag (dashes : Dashes) (inner : List Char) : List Char :=
  enclosed '%' '%' dashes inner

/-- The stretches of a source that spell a piece. -/
inductive Piece.Spelled : Piece → List Char → Prop where
  | text {s : List Char} (line : Nat) (nonempty : s ≠ []) (plain : Plain s) :
    Spelled (.text line s) s
  | output (line : Nat) (dashes : Dashes) (body : List Char) :
    Spelled (.output line dashes body) (enclosed '\x7b' '\x7d' dashes body)
  | tag {name args : List Char} (line : Nat) (dashes : Dashes) (inner : List Char)
    (split : splitName inner = (name, args)) (region : Region.ofName? name = none) :
    Spelled (.tag line dashes name args) (enclosedTag dashes inner)
  | raw {inner close : List Char} (line : Nat) (opening : Dashes) (body : List Char)
    (closing : Dashes) (name : (splitName inner).1 = Region.raw.name.toList)
    (last : Text.trim close = Region.raw.closing.toList) :
    Spelled (.raw line opening body closing)
      (enclosedTag opening inner ++ (body ++ enclosedTag closing close))
  | comment {inner body close : List Char} (line : Nat) (opening closing : Dashes)
    (name : (splitName inner).1 = Region.comment.name.toList)
    (last : Text.trim close = Region.comment.closing.toList) :
    Spelled (.comment line opening closing)
      (enclosedTag opening inner ++ (body ++ enclosedTag closing close))

/-- The pieces tile the text that follows `before`, each on its line. -/
inductive Tiled : List Char → List Char → List Piece → Prop where
  | nil (before : List Char) : Tiled before [] []
  | cons {before chunk rest : List Char} {p : Piece} {ps : List Piece} (spelled : p.Spelled chunk)
    (place : p.line = 1 + lineEnds before) (more : Tiled (before ++ chunk) rest ps) :
    Tiled before (chunk ++ rest) (p :: ps)

@[simp] theorem lineEnds_nil : lineEnds [] = 0 := rfl

@[simp] theorem lineEnds_append (s t : List Char) :
    lineEnds (s ++ t) = lineEnds s + lineEnds t := by
  simp [lineEnds]

@[simp] theorem lineEnds_enclosed {first last : Char} (dashes : Dashes) (inner : List Char)
    (hf : first ≠ '\n') (hl : last ≠ '\n') :
    lineEnds (enclosed first last dashes inner) = lineEnds inner := by
  rcases dashes with ⟨left, right⟩
  cases left <;> cases right <;> simp [lineEnds, enclosed, dash, hf, hl]

theorem splitAtOpening_plain (s : List Char) : Plain (splitAtOpening s).1 := by
  induction s with
  | nil => simp [splitAtOpening, Plain]
  | cons c rest ih =>
    rw [splitAtOpening]
    split
    · simp [Plain]
    · rename_i hc
      have hs := splitAtOpening_append rest
      generalize splitAtOpening rest = parts at ih hs
      rcases parts with ⟨before, after⟩
      have head : ∀ d : Char, d = '\x7b' ∨ d = '%' → ¬ ['\x7b', d] <+: c :: before := by
        intro d hd hp
        rcases List.cons_prefix_cons.mp hp with ⟨rfl, tail, ht⟩
        refine hc ⟨rfl, ?_⟩
        rcases hd with rfl | rfl <;> simp [← hs, ← ht]
      refine ⟨?_, ?_⟩
      · intro hi
        rcases List.infix_cons_iff.mp hi with hp | hi
        · exact head _ (Or.inl rfl) hp
        · exact ih.1 hi
      · intro hi
        rcases List.infix_cons_iff.mp hi with hp | hi
        · exact head _ (Or.inr rfl) hp
        · exact ih.2 hi

theorem stripDashes_of_head {body : List Char} (h : body.head? ≠ some '-') :
    stripDashes body = if body.getLast? = some '-' then (body.dropLast, ⟨false, true⟩)
      else (body, ⟨false, false⟩) := by
  cases body with
  | nil => rfl
  | cons c tail =>
    have hc : c ≠ '-' := by simpa using h
    simp [stripDashes, hc]

theorem stripDashes_eq {body inner : List Char} {dashes : Dashes}
    (h : stripDashes body = (inner, dashes)) :
    body = dash dashes.left ++ inner ++ dash dashes.right := by
  have right : ∀ (left : Bool) (rest : List Char),
      (if rest.getLast? = some '-' then (rest.dropLast, (⟨left, true⟩ : Dashes))
        else (rest, ⟨left, false⟩)) = (inner, dashes) →
      dash left ++ rest = dash dashes.left ++ inner ++ dash dashes.right := by
    intro left rest hr
    split at hr
    · rename_i hd
      cases hr
      rw [List.append_assoc]
      congr 1
      exact (List.dropLast_append_getLast? '-' hd).symm
    · cases hr
      simp [dash]
  by_cases hd : body.head? = some '-'
  · cases body with
    | nil => cases hd
    | cons c tail =>
      cases hd
      exact right true tail h
  · rw [stripDashes_of_head hd] at h
    exact right false body h

theorem stripDashes_dash {s : List Char} (head : s.head? ≠ some '-') (last : s.getLast? ≠ some '-')
    (hne : s ≠ []) (dashes : Dashes) :
    stripDashes (dash dashes.left ++ s ++ dash dashes.right) = (s, dashes) := by
  have right (left : Bool) (present : Bool) :
      (if (s ++ dash present).getLast? = some '-' then
        ((s ++ dash present).dropLast, (⟨left, true⟩ : Dashes))
      else (s ++ dash present, ⟨left, false⟩)) = (s, ⟨left, present⟩) := by
    cases present with
    | false => simp [dash, last]
    | true => simp [dash]
  rcases dashes with ⟨left, present⟩
  cases left with
  | false =>
    have hhead : (s ++ dash present).head? ≠ some '-' := by
      rw [List.head?_append_of_ne_nil _ hne]
      exact head
    rw [dash, if_neg (by simp), List.nil_append, stripDashes_of_head hhead]
    exact right false present
  | true => exact right true present

theorem enclosed_of_stripDashes {body inner : List Char} {dashes : Dashes}
    (h : stripDashes body = (inner, dashes)) (first last : Char) :
    '\x7b' :: first :: (body ++ [last, '\x7d']) = enclosed first last dashes inner := by
  rw [stripDashes_eq h, enclosed]

theorem lineAfter_eq (c : Char) (line : Nat) : lineAfter c line = line + lineEnds [c] := by
  by_cases hc : c = '\n' <;> simp [lineAfter, lineEnds, hc]

theorem lineEnds_cons (c : Char) (s : List Char) :
    lineEnds (c :: s) = lineEnds [c] + lineEnds s :=
  lineEnds_append [c] s

@[simp] theorem lineEnds_dash (present : Bool) : lineEnds (dash present) = 0 := by
  cases present <;> simp [lineEnds, dash]

theorem lineEnds_stripDashes {body inner : List Char} {dashes : Dashes}
    (h : stripDashes body = (inner, dashes)) : lineEnds body = lineEnds inner := by
  simp [stripDashes_eq h]

theorem findRegionEnd_eq_found {region : Region} {s body rest : List Char} {dashes : Dashes}
    {line line' : Nat} (h : findRegionEnd region line s = .found body dashes line' rest) :
    ∃ close, s = body ++ enclosedTag dashes close ++ rest ∧
      Text.trim close = region.closing.toList ∧
      line' = line + lineEnds body + lineEnds close := by
  induction s generalizing line body with
  | nil => simp [findRegionEnd] at h
  | cons c tail ih =>
    have further :
        (findRegionEnd region (lineAfter c line) tail).cons c = .found body dashes line' rest →
        ∃ close, c :: tail = body ++ enclosedTag dashes close ++ rest ∧
          Text.trim close = region.closing.toList ∧
          line' = line + lineEnds body + lineEnds close := by
      intro hc
      rcases RegionEnd.cons_eq_found hc with ⟨b, hb, rfl⟩
      rcases ih hb with ⟨close, hs, hclose, hl⟩
      refine ⟨close, by rw [hs]; rfl, hclose, ?_⟩
      rw [hl, lineAfter_eq, lineEnds_cons c b]
      omega
    rw [findRegionEnd] at h
    split at h
    · rename_i hopen
      split at h
      · cases h
      · split at h
        · cases h
        · rename_i b after heq
          generalize hstrip : stripDashes b = stripped at h
          rcases stripped with ⟨inner, found⟩
          simp only at h
          split at h
          · rename_i hclose
            cases h
            refine ⟨inner, ?_, hclose, ?_⟩
            · rcases hopen with ⟨rfl, hr⟩
              cases tail with
              | nil => cases hr
              | cons d t =>
                cases hr
                rw [List.nil_append, enclosedTag, ← enclosed_of_stripDashes hstrip]
                have ht : t = b ++ '%' :: '\x7d' :: rest := splitAtTagEnd_eq heq
                simp [ht]
            · rw [lineEnds_stripDashes hstrip, lineEnds_nil, Nat.add_zero]
          · exact further h
    · exact further h

theorem Region.ofName?_eq_some {name : List Char} {region : Region}
    (h : Region.ofName? name = some region) : name = region.name.toList := by
  rw [Region.ofName?] at h
  split at h
  · cases h
    assumption
  · split at h
    · cases h
      assumption
    · cases h

/-- The piece at the front of a source, with the stretch that spells it. -/
structure Front (line : Nat) (s : List Char) (p : Piece) (line' : Nat) (rest : List Char)
    (chunk : List Char) : Prop where
  eq : s = chunk ++ rest
  spelled : p.Spelled chunk
  place : p.line = line
  after : line' = line + lineEnds chunk

theorem cutOutput_eq_piece {line line' : Nat} {s rest : List Char} {p : Piece}
    (h : cutOutput line s = .piece p line' rest) :
    ∃ chunk, Front line ('\x7b' :: '\x7b' :: s) p line' rest chunk := by
  rw [cutOutput] at h
  split at h
  · cases h
  · rename_i body after heq
    generalize hstrip : stripDashes body = stripped at h
    rcases stripped with ⟨inner, dashes⟩
    cases h
    refine ⟨_, ?_, .output line dashes inner, rfl, ?_⟩
    · rw [← enclosed_of_stripDashes hstrip, splitAtClosing_eq heq]
      simp
    · rw [lineEnds_enclosed _ _ (by decide) (by decide), lineEnds_stripDashes hstrip]

theorem cutRegion_eq_piece {region : Region} {start line line' : Nat} {opening : Dashes}
    {inner s rest : List Char} {p : Piece} (hn : (splitName inner).1 = region.name.toList)
    (h : cutRegion region start opening line s = .piece p line' rest) :
    ∃ chunk, s = chunk ++ rest ∧ p.Spelled (enclosedTag opening inner ++ chunk) ∧ p.line = start ∧
      line' = line + lineEnds chunk := by
  rw [cutRegion] at h
  split at h
  · rename_i body closing next after hfound
    rcases findRegionEnd_eq_found hfound with ⟨close, hs, hclose, hline⟩
    have hl : next = line + lineEnds (body ++ enclosedTag closing close) := by
      rw [hline, lineEnds_append, lineEnds_enclosed _ _ (by decide) (by decide), Nat.add_assoc]
    cases region with
    | raw =>
      cases h
      exact ⟨_, hs, .raw start opening body closing hn hclose, rfl, hl⟩
    | comment =>
      cases h
      exact ⟨_, hs, .comment start opening closing hn hclose, rfl, hl⟩
  · cases h
  · cases h
  · cases h

theorem cutTag_eq_piece {line line' : Nat} {s rest : List Char} {p : Piece}
    (h : cutTag line s = .piece p line' rest) :
    ∃ chunk, Front line ('\x7b' :: '%' :: s) p line' rest chunk := by
  rw [cutTag] at h
  split at h
  · cases h
  · rename_i body after heq
    generalize hstrip : stripDashes body = stripped at h
    rcases stripped with ⟨inner, dashes⟩
    simp only at h
    generalize hsplit : splitName inner = parts at h
    rcases parts with ⟨name, args⟩
    have hs : '\x7b' :: '%' :: s = enclosedTag dashes inner ++ after := by
      rw [enclosedTag, ← enclosed_of_stripDashes hstrip, splitAtClosing_eq heq]
      simp
    have hl : lineEnds body = lineEnds (enclosedTag dashes inner) := by
      rw [lineEnds_enclosed _ _ (by decide) (by decide), lineEnds_stripDashes hstrip]
    split at h
    · rename_i region hregion
      have hname : (splitName inner).1 = region.name.toList := by
        rw [hsplit]
        exact Region.ofName?_eq_some hregion
      rcases cutRegion_eq_piece hname h with ⟨chunk, rfl, hp, hline, hafter⟩
      refine ⟨enclosedTag dashes inner ++ chunk, by rw [hs, List.append_assoc], hp, hline, ?_⟩
      rw [hafter, lineEnds_append, hl, Nat.add_assoc]
    · rename_i hregion
      cases h
      exact ⟨_, hs, .tag line dashes inner hsplit hregion, rfl, by rw [hl]⟩

theorem splitAtOpening_after (s : List Char) : (splitAtOpening s).2 = [] ∨
    ∃ d tail, (splitAtOpening s).2 = '\x7b' :: d :: tail ∧ (d = '\x7b' ∨ d = '%') := by
  induction s with
  | nil => exact Or.inl rfl
  | cons c rest ih =>
    rw [splitAtOpening]
    split
    · rename_i hc
      rcases hc with ⟨rfl, hr⟩
      cases rest with
      | nil => simp at hr
      | cons d tail => exact Or.inr ⟨d, tail, rfl, by simpa using hr⟩
    · exact ih

theorem cutRegion_ne_finished (region : Region) (start : Nat) (opening : Dashes) (line : Nat)
    (s : List Char) : cutRegion region start opening line s ≠ .stop .finished := by
  rw [cutRegion]
  split
  · cases region <;> simp
  · simp
  · simp
  · simp

theorem cutOutput_ne_finished (line : Nat) (s : List Char) :
    cutOutput line s ≠ .stop .finished := by
  rw [cutOutput]
  split <;> simp

theorem cutTag_ne_finished (line : Nat) (s : List Char) : cutTag line s ≠ .stop .finished := by
  rw [cutTag]
  split
  · simp
  · simp only
    split
    · exact cutRegion_ne_finished _ _ _ _ _
    · simp

/-- The cutting of a source finishes only at its end. -/
theorem cut_eq_finished {line : Nat} {s : List Char} (h : cut line s = .stop .finished) :
    s = [] := by
  rw [cut] at h
  have hs := splitAtOpening_append s
  have hafter := splitAtOpening_after s
  generalize splitAtOpening s = parts at h hs hafter
  rcases parts with ⟨before, after⟩
  simp only at h hs hafter
  split at h
  · rename_i he
    have hb : before = [] := by simpa using he
    subst hb
    rcases hafter with rfl | ⟨d, tail, rfl, rfl | rfl⟩
    · exact hs.symm
    · exact (cutOutput_ne_finished _ _ h).elim
    · exact (cutTag_ne_finished _ _ h).elim
  · cases h

/-- What a cut takes off the front of a source spells the piece that it gives. -/
theorem cut_eq_piece {line line' : Nat} {s rest : List Char} {p : Piece}
    (h : cut line s = .piece p line' rest) : ∃ chunk, Front line s p line' rest chunk := by
  rw [cut] at h
  have hs := splitAtOpening_append s
  have hplain := splitAtOpening_plain s
  have hafter := splitAtOpening_after s
  generalize splitAtOpening s = parts at h hs hplain hafter
  rcases parts with ⟨before, after⟩
  simp only at h hs hplain hafter
  split at h
  · rename_i he
    have hb : before = [] := by simpa using he
    subst hb
    rw [List.nil_append] at hs
    subst hs
    rcases hafter with rfl | ⟨d, tail, rfl, rfl | rfl⟩
    · cases h
    · exact cutOutput_eq_piece h
    · exact cutTag_eq_piece h
  · rename_i he
    cases h
    exact ⟨before, hs.symm, .text line (by simpa using he) hplain, rfl, rfl⟩

theorem tiled_pieces {line : Nat} {s before : List Char} (hl : line = 1 + lineEnds before)
    (h : (pieces line s).2 = .finished) : Tiled before s (pieces line s).1 := by
  induction line, s using pieces.induct generalizing before with
  | case1 line s stop hc =>
    rw [pieces_of_stop hc] at h ⊢
    simp only at h
    subst h
    rw [cut_eq_finished hc]
    exact .nil before
  | case2 line s p line' rest hc more stop hm ih =>
    rw [pieces_of_piece hc] at h ⊢
    rcases cut_eq_piece hc with ⟨chunk, front⟩
    rw [front.eq]
    refine .cons front.spelled (by rw [front.place, hl]) (ih ?_ h)
    rw [front.after, hl, lineEnds_append, Nat.add_assoc]

end TemplateSite
