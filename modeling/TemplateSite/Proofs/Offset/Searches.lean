import TemplateSite.Proofs.Offset.Stacks
import TemplateSite.Proofs.Template.Position

/-!
# The searches of a walk

The offsets that a walk looks for are those of the places where a source is split, and the slices it
takes between them are the parts of the source between those places. One search can break down: the
one for the end of a region, on an opening delimiter that shares a character with a closing one.
-/
namespace TemplateSite.Offset
open TemplateSite.Text Walk

theorem stripDashes_eq (body : List Char) :
    stripDashes body = .ok (TemplateSite.stripDashes body) := by
  have right (left : Bool) (rest : List Char) : (do
        let body ← if rest.getLast? = some '-' then do takeTo (← minus (size rest) 1) rest
          else pure rest
        return (body, (⟨left, decide (rest.getLast? = some '-')⟩ : Dashes)) : Answer _) =
      .ok (if rest.getLast? = some '-' then (rest.dropLast, ⟨left, true⟩)
        else (rest, ⟨left, false⟩)) := by
    split
    · rename_i hd
      have hs := List.dropLast_append_getLast? '-' hd
      have hm : minus (size rest) 1 = (.ok (size rest.dropLast) : Answer Nat) := by
        refine minus_eq ?_
        conv_lhs => rw [← hs, size_append]
        rfl
      have ht : takeTo (size rest.dropLast) rest = (.ok rest.dropLast : Answer _) := by
        have h := takeTo_size (E := CompileFault) rest.dropLast ['-']
        rwa [hs] at h
      simp only [hm, bind, Except.bind, ht]
      simp [hd, pure, Except.pure]
    · rename_i hd
      simp [hd, bind, Except.bind, pure, Except.pure]
  by_cases hd : body.head? = some '-'
  · cases body with
    | nil => cases hd
    | cons c rest =>
      cases hd
      have hdrop : dropTo 1 ('-' :: rest) = (.ok rest : Answer _) :=
        dropTo_size (E := CompileFault) ['-'] rest
      rw [stripDashes]
      simp only [List.head?_cons, if_true, hdrop]
      exact right true rest
  · rw [stripDashes, stripDashes_of_head hd]
    simp only [if_neg hd]
    have h := right false body
    simpa [hd] using h

theorem splitBody_eq (body : List Char) : splitBody (trim body) = .ok (splitName body) := by
  have hs := List.takeWhile_append_dropWhile (p := fun c => !isBlank c) (l := trim body)
  rw [splitBody, splitName, findChar_eq]
  cases hd : (trim body).dropWhile fun c => !isBlank c with
  | nil =>
    rw [hd, List.append_nil] at hs
    rw [hs]
    rfl
  | cons c rest =>
    rw [hd] at hs
    have ht := takeTo_size (E := CompileFault) ((trim body).takeWhile fun c => !isBlank c) (c :: rest)
    have hr := dropTo_size (E := CompileFault) ((trim body).takeWhile fun c => !isBlank c) (c :: rest)
    rw [hs] at ht hr
    simp only [List.isEmpty_cons, Bool.false_eq_true, if_false, ht, hr]
    rfl

theorem findClose_eq (d : Char) (q : Option Char) (passed s : List Char) :
    findClose (passed ++ s) d q (size passed) s =
      .ok ((splitAtClosing d q s).map fun found => size passed + size found.1) := by
  induction s generalizing q passed with
  | nil => cases q <;> rfl
  | cons c rest ih =>
    have onward (q : Option Char) :
        findClose (passed ++ c :: rest) d q (size passed + c.utf8Size) rest =
          .ok (((splitAtClosing d q rest).map fun found => (c :: found.1, found.2)).map
            fun found => size passed + size found.1) := by
      have h := ih q (passed ++ [c])
      rw [List.append_assoc, List.singleton_append, size_append, size_cons, size_nil,
        Nat.add_zero] at h
      rw [h]
      cases splitAtClosing d q rest with
      | none => rfl
      | some found => simp [Nat.add_assoc]
    cases q with
    | some q =>
      rw [findClose, splitAtClosing]
      exact onward _
    | none =>
      rw [findClose, splitAtClosing]
      split
      · exact onward _
      · rw [dropTo_size]
        simp only [bind, Except.bind, isPrefixOf_pair]
        split
        · simp [pure, Except.pure]
        · exact onward none

theorem bodyOf_eq {c d : Char} (hcd : size [c, d] = 2) (e : Char) (s : List Char) :
    bodyOf (c :: d :: s) e = .ok ((splitAtClosing e none s).map fun found =>
      (TemplateSite.stripDashes found.1, 2 + size found.1)) := by
  have hclose := findClose_eq e none [c, d] s
  rw [hcd] at hclose
  have htake : size ((c :: d :: s).take 2) = 2 := hcd
  rw [bodyOf, htake]
  simp only [List.drop_succ_cons, List.drop_zero, bind, Except.bind]
  cases hsplit : splitAtClosing e none s with
  | none =>
    rw [hsplit] at hclose
    simp only [List.cons_append, List.nil_append] at hclose
    simp only [hclose]
    rfl
  | some found =>
    rcases found with ⟨body, after⟩
    rw [hsplit] at hclose
    have hslice := slice_size (E := CompileFault) [c, d] body (e :: '\x7d' :: after) rfl
    rw [hcd, ← splitAtClosing_eq hsplit] at hslice
    simp only [List.cons_append, List.nil_append] at hclose hslice
    simp only [hclose, Option.map_some, hslice, stripDashes_eq]
    rfl

theorem lineAt_place (b : Builder) (before : List Char) {src counted q t u : List Char}
    (hc : src = counted ++ t) (hq : src = q ++ u) : (place b before counted).lineAt src (size q) =
      .ok (1 + lineEnds q, place b before q) := by
  rw [Walk.lineAt]
  by_cases hle : size counted ≤ size q
  · rcases eq_append_of_size_le (hc.symm.trans hq) hle with ⟨w, rfl, rfl⟩
    have hslice := slice_size (E := CompileFault) counted w u (size_append counted w)
    rw [← hc] at hslice
    have hpos : (place b before counted).linePos ≤ size (counted ++ w) := hle
    have hslice : slice (place b before counted).linePos (size (counted ++ w)) src =
        (.ok w : Answer _) := hslice
    rw [if_pos hpos]
    simp only [hslice, bind, Except.bind, pure, Except.pure]
    rw [place, place, lineEnds_append, Nat.add_assoc]
  · rcases eq_append_of_size_le (hq.symm.trans hc) (by omega) with ⟨w, rfl, rfl⟩
    have hslice := slice_size (E := CompileFault) q w t (size_append q w)
    rw [← hq] at hslice
    have hpos : ¬ (place b before (q ++ w)).linePos ≤ size q := hle
    have hslice : slice (size q) (place b before (q ++ w)).linePos src = (.ok w : Answer _) := hslice
    have hminus : minus (place b before (q ++ w)).line (lineEnds w) =
        (.ok (1 + lineEnds q) : Answer _) := by
      refine minus_eq ?_
      rw [place, lineEnds_append, Nat.add_assoc]
    rw [if_neg hpos]
    simp only [hslice, bind, Except.bind, hminus]
    rfl

theorem find_tagEnd (s : List Char) :
    find ['%', '\x7d'] s = (splitAtTagEnd s).map fun found => size found.1 := by
  induction s with
  | nil => rfl
  | cons c rest ih =>
    rw [find_pair, splitAtTagEnd, ih]
    split
    · rfl
    · cases splitAtTagEnd rest <;> rfl

/-- Where the next closing delimiter of a tag stands after an opening one. -/
theorem find_tagEnd_after (s : List Char) : find ['%', '\x7d'] ('\x7b' :: '%' :: s) =
    if s.head? = some '\x7d' then some 1
    else (splitAtTagEnd s).map fun found => 2 + size found.1 := by
  rw [find_pair, if_neg (by simp), find_pair, find_tagEnd]
  by_cases hs : s.head? = some '\x7d'
  · rw [if_pos ⟨rfl, hs⟩, if_pos hs]
    rfl
  · rw [if_neg (fun h => hs h.2), if_neg hs]
    cases splitAtTagEnd s with
    | none => rfl
    | some found =>
      have h1 : ('\x7b' : Char).utf8Size = 1 := rfl
      have h2 : ('%' : Char).utf8Size = 1 := rfl
      simp only [Option.map_some, h1, h2]
      congr 1
      omega

namespace Walk

theorem nearest_map (k : Nat) (m n : Option Nat) :
    nearest (m.map (k + ·)) (n.map (k + ·)) = (nearest m n).map (k + ·) := by
  cases m <;> cases n <;> simp [nearest, Nat.add_min_add_left]

/-- The nearer one of the two opening delimiters stands where the text is split. -/
theorem nearest_opening (s : List Char) :
    nearest (find ['\x7b', '\x7b'] s) (find ['\x7b', '%'] s) =
      if (splitAtOpening s).2.isEmpty then none else some (size (splitAtOpening s).1) := by
  induction s with
  | nil => rfl
  | cons c rest ih =>
    rw [find_pair, find_pair, splitAtOpening]
    by_cases hc : c = '\x7b' ∧ (rest.head? = some '\x7b' ∨ rest.head? = some '%')
    · rw [if_pos hc]
      rcases hc with ⟨hc, hd | hd⟩
      · rw [if_pos ⟨hc, hd⟩]
        cases (if c = '\x7b' ∧ rest.head? = some '%' then some 0
          else (find ['\x7b', '%'] rest).map (c.utf8Size + ·)) <;> simp [nearest]
      · rw [if_pos (c := c = '\x7b' ∧ rest.head? = some '%') ⟨hc, hd⟩]
        cases (if c = '\x7b' ∧ rest.head? = some '\x7b' then some 0
          else (find ['\x7b', '\x7b'] rest).map (c.utf8Size + ·)) <;> simp [nearest]
    · have hb : ¬ (c = '\x7b' ∧ rest.head? = some '\x7b') := fun h => hc ⟨h.1, Or.inl h.2⟩
      have hp : ¬ (c = '\x7b' ∧ rest.head? = some '%') := fun h => hc ⟨h.1, Or.inr h.2⟩
      rw [if_neg hb, if_neg hp, if_neg hc, nearest_map, ih]
      split
      · rfl
      · rfl

theorem takeUntil_of_dropTo (w : Walk) {src remaining : List Char} {search : Nat}
    (h : dropTo search src = (.ok remaining : Answer _)) (region : Region) (start : Nat) :
    w.takeUntil src region start search =
      match find ['\x7b', '%'] remaining with
      | none => fault (.unclosed start region.name)
      | some rel =>
        w.endAt src region (search + rel) >>= fun
        | some found => .ok found
        | none => w.takeUntil src region start (search + rel + 2) := by
  rw [takeUntil]
  split
  · rename_i h'
    rw [h] at h'
    cases h'
  · rename_i h'
    rw [h] at h'
    cases h'
    rfl

/-- Where no tag opens, the search for the end of a region moves on by one character. -/
theorem takeUntil_cons (w : Walk) (c : Char) (passed rest : List Char)
    (hc : ¬ (c = '\x7b' ∧ rest.head? = some '%')) (region : Region) (start : Nat) :
    w.takeUntil (passed ++ c :: rest) region start (size passed) =
      w.takeUntil (passed ++ c :: rest) region start (size (passed ++ [c])) := by
  have next := dropTo_size (E := CompileFault) (passed ++ [c]) rest
  rw [List.append_assoc, List.singleton_append] at next
  rw [takeUntil_of_dropTo w (dropTo_size passed (c :: rest)), takeUntil_of_dropTo w next, find_pair,
    if_neg hc]
  cases find ['\x7b', '%'] rest with
  | none => rfl
  | some rel =>
    have hrel : size passed + (c.utf8Size + rel) = size (passed ++ [c]) + rel := by
      simp [Nat.add_assoc]
    simp only [Option.map_some, hrel]

end Walk

theorem slice_delimited {E : Type} {src front body more : List Char} {d e : Char}
    (hd : size ['\x7b', d] = 2) (hs : src = front ++ '\x7b' :: d :: (body ++ e :: '\x7d' :: more)) :
    slice (size front + 2) (size front + (2 + size body)) src =
      (.ok body : Except (Failure E) (List Char)) := by
  have hfront : size (front ++ ['\x7b', d]) = size front + 2 := by rw [size_append, hd]
  have h := slice_size (E := E) (front ++ ['\x7b', d]) body (e :: '\x7d' :: more) rfl
  rw [hfront, Nat.add_assoc, List.append_assoc] at h
  rw [hs]
  exact h

theorem pos_after {src front body more : List Char} {d e : Char} (hd : size ['\x7b', d] = 2)
    (he : size [e, '\x7d'] = 2) (hs : src = front ++ '\x7b' :: d :: (body ++ e :: '\x7d' :: more)) :
    size front + (2 + size body + 2) = size src - size more := by
  have hsrc : src = front ++ ['\x7b', d] ++ body ++ [e, '\x7d'] ++ more := by simp [hs]
  rw [hsrc, size_sub]
  simp only [size_append, hd, he]
  omega

/-- What the search for the end of a region gives, for what is found after a first part of it. -/
def searched (w : Walk) (src passed : List Char) (region : Region) (start : Nat) :
    RegionEnd → Answer ((List Char × Dashes) × Walk)
  | .found body dashes _ rest =>
    .ok ((passed ++ body, dashes), { w with pos := size src - size rest })
  | .missing => fault (.unclosed start region.name)
  | .unterminated line => fault (.unterminated line .tag)
  | .breakdown => .error .breakdown

theorem searched_cons (w : Walk) (src passed : List Char) (region : Region) (start : Nat) (c : Char)
    (e : RegionEnd) : searched w src passed region start (e.cons c) =
      searched w src (passed ++ [c]) region start e := by
  cases e with
  | found body dashes line rest => simp [searched, RegionEnd.cons]
  | missing => rfl
  | unterminated line => rfl
  | breakdown => rfl

section

variable {src before counted z : List Char} (hc : src = counted ++ z)

include hc

/-- The tag that opens after a part of a region is tried as its end. -/
theorem endAt_place (b : Builder) (region : Region) {passed rest : List Char}
    (hs : src = before ++ (passed ++ '\x7b' :: '%' :: rest)) :
    (place b before counted).endAt src region (size (before ++ passed)) =
      if rest.head? = some '\x7d' then .error .breakdown
      else
        match splitAtTagEnd rest with
        | none => fault (.unterminated (1 + lineEnds (before ++ passed)) .tag)
        | some (body, after) =>
          if trim (TemplateSite.stripDashes body).1 = region.closing.toList then
            .ok (some ((passed, (TemplateSite.stripDashes body).2),
              { place b before counted with pos := size src - size after }))
          else .ok none := by
  have hsrc : src = (before ++ passed) ++ '\x7b' :: '%' :: rest := by rw [hs, List.append_assoc]
  have here : dropTo (size (before ++ passed)) src = (.ok ('\x7b' :: '%' :: rest) : Answer _) := by
    rw [hsrc, dropTo_size]
  rw [endAt]
  simp only [here, find_tagEnd_after, bind, Except.bind]
  by_cases hd : rest.head? = some '\x7d'
  · -- The slice would end one octet before it starts.
    have behind : ¬ size (before ++ passed) + 2 ≤ size (before ++ passed) + 1 := by omega
    simp only [if_pos hd, slice, if_neg behind]
  · simp only [if_neg hd]
    cases hsplit : splitAtTagEnd rest with
    | none =>
      have hline := lineAt_place b before hc hsrc
      simp only [Option.map_none, hline]
    | some found =>
      rcases found with ⟨body, after⟩
      rw [splitAtTagEnd_eq hsplit] at hsrc
      have inside := slice_delimited (E := CompileFault) rfl hsrc
      have hpos := pos_after rfl rfl hsrc
      rw [← Nat.add_assoc (size (before ++ passed))] at hpos
      have body_slice : slice (place b before counted).pos (size (before ++ passed)) src =
          (.ok passed : Answer _) := by
        have h := slice_size (E := CompileFault) before passed ('\x7b' :: '%' :: rest)
          (size_append before passed)
        rwa [← hs] at h
      simp only [Option.map_some, inside, stripDashes_eq, body_slice, hpos]
      split
      · rfl
      · rfl

theorem takeUntil_place (b : Builder) (region : Region) (start : Nat) {passed rest : List Char}
    (hs : src = before ++ (passed ++ rest)) :
    (place b before counted).takeUntil src region start (size (before ++ passed)) =
      searched (place b before counted) src passed region start
        (findRegionEnd region (1 + lineEnds (before ++ passed)) rest) := by
  induction rest generalizing passed with
  | nil =>
    have here : dropTo (size (before ++ passed)) src = (.ok [] : Answer _) := by
      rw [hs, ← List.append_assoc, dropTo_size]
    rw [takeUntil_of_dropTo _ here]
    rfl
  | cons c rest ih =>
    -- Further on the search finds what it finds from the next character on.
    have further : (place b before counted).takeUntil src region start
          (size (before ++ (passed ++ [c]))) =
        searched (place b before counted) src passed region start
          ((findRegionEnd region (lineAfter c (1 + lineEnds (before ++ passed))) rest).cons c) := by
      rw [@ih (passed ++ [c]) (by simp [hs]), searched_cons, lineAfter_eq]
      simp only [lineEnds_append, Nat.add_assoc]
    have hsrc : src = (before ++ passed) ++ c :: rest := by rw [hs, List.append_assoc]
    rw [findRegionEnd]
    by_cases hopen : c = '\x7b' ∧ rest.head? = some '%'
    · rw [if_pos hopen]
      rcases hopen with ⟨rfl, hd⟩
      rcases List.head?_eq_some_iff.mp hd with ⟨rest, rfl⟩
      have here : dropTo (size (before ++ passed)) src =
          (.ok ('\x7b' :: '%' :: rest) : Answer _) := by
        rw [hsrc, dropTo_size]
      have onward : (place b before counted).takeUntil src region start
          (size (before ++ passed) + 2) =
          (place b before counted).takeUntil src region start
            (size (before ++ (passed ++ ['\x7b']))) := by
        have h := takeUntil_cons (place b before counted) '%' (before ++ (passed ++ ['\x7b'])) rest
          (by simp) region start
        have hsrc' : src = before ++ (passed ++ ['\x7b']) ++ '%' :: rest := by simp [hs]
        rw [← hsrc'] at h
        rw [h]
        congr 1
        simp only [size_append, Nat.add_assoc]
        rfl
      rw [takeUntil_of_dropTo _ here, find_pair, if_pos ⟨rfl, rfl⟩]
      simp only [Nat.add_zero, endAt_place hc b region hs, onward, further]
      by_cases hclose : ('%' :: rest).tail.head? = some '\x7d'
      · have hclose' : rest.head? = some '\x7d' := hclose
        rw [if_pos hclose, if_pos hclose']
        rfl
      · have hclose' : ¬ rest.head? = some '\x7d' := hclose
        rw [if_neg hclose, if_neg hclose', List.tail_cons]
        cases splitAtTagEnd rest with
        | none => rfl
        | some found =>
          simp only
          split
          · simp [bind, Except.bind, searched]
          · rfl
    · rw [if_neg hopen, ← further, hsrc, takeUntil_cons _ _ _ _ hopen,
        List.append_assoc before passed [c]]

end

end TemplateSite.Offset
