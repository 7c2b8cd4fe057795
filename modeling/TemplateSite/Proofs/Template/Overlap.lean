import TemplateSite.Proofs.Template.Refusal

/-!
# Overlapping delimiters

Compiling breaks down on exactly one kind of source: in a region that is reached after all pieces
before it were accepted, an opening delimiter of a tag shares its second character with a closing
one, and no end tag of the region stands before that place.
-/
namespace TemplateSite
open Text

/-- The body of a tag that ends a region. -/
def Region.Ends (region : Region) (close : List Char) : Prop :=
  trim close = region.closing.toList

/-- In the text after the tag that opens a region, an opening and a closing delimiter overlap, and
no end tag of the region stands before them. -/
def Region.Overlaps (region : Region) (s : List Char) : Prop :=
  ∃ text after, s = text ++ '\x7b' :: '%' :: '\x7d' :: after ∧
    ∀ dashes close, region.Ends close → ¬ enclosedTag dashes close <:+: text

section

variable {region : Region} {close : List Char}

theorem Region.Ends.mem (h : region.Ends close) {c : Char} (hc : c ∈ close) :
    isBlank c = true ∨ isAsciiLetter c = true := by
  rcases eq_append_trim close with ⟨before, after, hb, ha, hs⟩
  rw [hs, List.mem_append, List.mem_append] at hc
  rcases hc with (hc | hc) | hc
  · exact Or.inl (hb c hc)
  · right
    rw [h] at hc
    have letters : region.closing.toList.all isAsciiLetter = true := by cases region <;> decide
    exact List.all_eq_true.mp letters c hc
  · exact Or.inl (ha c hc)

theorem Region.Ends.not_mem (h : region.Ends close) {c : Char} (hb : isBlank c = false)
    (hl : isAsciiLetter c = false) : c ∉ close := by
  intro hc
  rcases h.mem hc with h | h
  · rw [hb] at h
    cases h
  · rw [hl] at h
    cases h

theorem Region.Ends.ne_nil (h : region.Ends close) : close ≠ [] := by
  rintro rfl
  cases region <;> cases h

theorem not_mem_dash {c : Char} (hc : c ≠ '-') (present : Bool) : c ∉ dash present := by
  cases present <;> simp [dash, hc]

theorem splitAtTagEnd_of_not_mem {s : List Char} (hs : '%' ∉ s) (t : List Char) :
    splitAtTagEnd (s ++ '%' :: '\x7d' :: t) = some (s, t) := by
  induction s with
  | nil => rfl
  | cons c s ih =>
    rw [List.mem_cons, not_or] at hs
    rw [List.cons_append, splitAtTagEnd, if_neg fun h => hs.1 h.1.symm, ih hs.2]
    rfl

/-- The end tag of a region is recognized where it stands. -/
theorem Region.Ends.findRegionEnd (h : region.Ends close) (line : Nat) (dashes : Dashes)
    (rest : List Char) : ∃ line', TemplateSite.findRegionEnd region line
      (enclosedTag dashes close ++ rest) = .found [] dashes line' rest := by
  have not_mem {c : Char} (hc : c ≠ '-') (hb : isBlank c = false) (hl : isAsciiLetter c = false) :
      c ∉ dash dashes.left ++ close ++ dash dashes.right := by
    simp [not_mem_dash hc, h.not_mem hb hl]
  have free : '-' ∉ close := h.not_mem (by decide) (by decide)
  have hstrip := stripDashes_dash (fun hd => free (List.mem_of_head? hd))
    (fun hd => free (List.mem_of_getLast? hd)) h.ne_nil dashes
  have hne : dash dashes.left ++ close ++ dash dashes.right ≠ [] := by simp [h.ne_nil]
  have hs : enclosedTag dashes close ++ rest = '\x7b' :: '%' ::
      (dash dashes.left ++ close ++ dash dashes.right ++ '%' :: '\x7d' :: rest) := by
    simp [enclosed]
  rw [hs]
  generalize dash dashes.left ++ close ++ dash dashes.right = body at not_mem hstrip hne ⊢
  have hopen : ¬ (body ++ '%' :: '\x7d' :: rest).head? = some '\x7d' := by
    rw [List.head?_append_of_ne_nil _ hne]
    exact fun hd => not_mem (by decide) (by decide) (by decide) (List.mem_of_head? hd)
  have hsplit := splitAtTagEnd_of_not_mem
    (not_mem (c := '%') (by decide) (by decide) (by decide)) rest
  refine ⟨line + lineEnds body, ?_⟩
  rw [TemplateSite.findRegionEnd, if_pos ⟨rfl, rfl⟩, List.tail_cons, if_neg hopen, hsplit]
  simp only [hstrip]
  exact if_pos h

/-- The search for the end of a region breaks down where delimiters overlap before an end tag. -/
theorem Region.overlaps_of_breakdown {line : Nat} {s : List Char}
    (h : TemplateSite.findRegionEnd region line s = .breakdown) : region.Overlaps s := by
  induction s generalizing line with
  | nil => cases h
  | cons c rest ih =>
    -- What is found after the first character is found here: no end tag stands at the front.
    have further {line' : Nat}
        (hb : (TemplateSite.findRegionEnd region line' rest).cons c = .breakdown) :
        region.Overlaps (c :: rest) := by
      have hrest : TemplateSite.findRegionEnd region line' rest = .breakdown := by
        generalize TemplateSite.findRegionEnd region line' rest = found at hb
        cases found with
        | breakdown => rfl
        | _ => cases hb
      rcases ih hrest with ⟨text, after, rfl, free⟩
      refine ⟨c :: text, after, rfl, ?_⟩
      intro dashes close hends hinfix
      rcases List.infix_cons_iff.mp hinfix with ⟨more, hprefix⟩ | hinfix
      · rcases hends.findRegionEnd line dashes (more ++ '\x7b' :: '%' :: '\x7d' :: after) with
          ⟨line', hfound⟩
        rw [← List.append_assoc, hprefix, List.cons_append, h] at hfound
        cases hfound
      · exact free dashes close hends hinfix
    have hc := h
    rw [TemplateSite.findRegionEnd] at hc
    split at hc
    · rename_i hopen
      split at hc
      · rename_i hclose
        rcases hopen with ⟨rfl, hd⟩
        rcases List.head?_eq_some_iff.mp hd with ⟨rest, rfl⟩
        rcases List.head?_eq_some_iff.mp hclose with ⟨after, hafter⟩
        rw [List.tail_cons] at hafter
        refine ⟨[], after, by rw [hafter]; rfl, ?_⟩
        intro dashes close hends hinfix
        cases List.infix_nil.mp hinfix
      · split at hc
        · cases hc
        · simp only at hc
          split at hc
          · cases hc
          · exact further hc
    · exact further hc

/-- A tag whose first closing delimiter is found, with the body of an end tag, stands before the
next brace. -/
theorem Region.Ends.infix_of_splitAtTagEnd {text after body more inner : List Char} {dashes : Dashes}
    (hsplit : splitAtTagEnd (text ++ '\x7b' :: after) = some (body, more))
    (hstrip : stripDashes body = (inner, dashes)) (h : region.Ends inner) :
    enclosedTag dashes inner <:+: '\x7b' :: '%' :: text := by
  have hs : text ++ '\x7b' :: after = (body ++ ['%', '\x7d']) ++ more := by
    rw [splitAtTagEnd_eq hsplit]
    simp
  have hbrace : '\x7b' ∉ body ++ ['%', '\x7d'] := by
    have := h.not_mem (c := '\x7b') (by decide) (by decide)
    simp [stripDashes_eq hstrip, not_mem_dash, this]
  have hprefix : body ++ ['%', '\x7d'] <+: text := by
    rcases List.append_eq_append_iff.mp hs with ⟨w, hw, hmore⟩ | ⟨w, hw, -⟩
    · cases w with
      | nil => exact ⟨[], by rw [hw, List.append_nil, List.append_nil]⟩
      | cons c w =>
        rw [List.cons_append, List.cons.injEq] at hmore
        exact absurd (by simp [hw, ← hmore.1]) hbrace
    · exact ⟨w, hw.symm⟩
  rcases hprefix with ⟨w, rfl⟩
  rw [enclosedTag, ← enclosed_of_stripDashes hstrip]
  exact ⟨[], w, by simp⟩

theorem Region.Overlaps.breakdown {s : List Char} (h : region.Overlaps s) (line : Nat) :
    TemplateSite.findRegionEnd region line s = .breakdown := by
  rcases h with ⟨text, after, rfl, free⟩
  induction text generalizing line with
  | nil => rfl
  | cons c text ih =>
    have hrest : TemplateSite.findRegionEnd region (lineAfter c line)
        (text ++ '\x7b' :: '%' :: '\x7d' :: after) = .breakdown := by
      refine ih _ ?_
      intro dashes close hends hinfix
      exact free dashes close hends (List.infix_cons hinfix)
    rw [List.cons_append, TemplateSite.findRegionEnd, hrest]
    split
    · rename_i hopen
      split
      · rfl
      · rcases hopen with ⟨rfl, hd⟩
        cases text with
        | nil => cases hd
        | cons d text =>
          cases hd
          -- The overlapping delimiters close every tag that opens before them.
          rcases splitAtTagEnd_within (text ++ ['\x7b']) with ⟨body, between, hwithin⟩
          have hsplit := hwithin after
          rw [List.append_assoc, List.singleton_append] at hsplit
          rw [List.cons_append, List.tail_cons, hsplit]
          simp only
          split
          · rename_i hends
            exact absurd (Ends.infix_of_splitAtTagEnd hsplit rfl hends) (free _ _ hends)
          · rfl
    · rfl

end

/-- A text starts with the tag that opens a region. The text after the tag is given. -/
def Region.Begins (region : Region) (s after : List Char) : Prop :=
  ∃ t body, s = '\x7b' :: '%' :: t ∧ splitAtClosing '%' none t = some (body, after) ∧
    (splitName (stripDashes body).1).1 = region.name.toList

theorem Region.ofName?_self (region : Region) : Region.ofName? region.name.toList = some region := by
  cases region <;> rfl

theorem Region.cut_of_closing {region : Region} {t body after : List Char}
    (hsplit : splitAtClosing '%' none t = some (body, after))
    (hname : (splitName (stripDashes body).1).1 = region.name.toList) (line : Nat) :
    cut line ('\x7b' :: '%' :: t) =
      cutRegion region line (stripDashes body).2 (line + lineEnds body) after := by
  have hopen : Opens ('\x7b' :: '%' :: t) := Or.inr ⟨'%', t, rfl, Or.inr rfl⟩
  rw [hopen.cut, cutDelimited, if_neg (by decide), cutTag, hsplit]
  simp only [hname, region.ofName?_self]

theorem cutTag_breakdown {line : Nat} {t : List Char}
    (h : cutTag line t = .stop (.failed .breakdown)) :
    ∃ (region : Region) (body after : List Char), splitAtClosing '%' none t = some (body, after) ∧
      (splitName (stripDashes body).1).1 = region.name.toList ∧ region.Overlaps after := by
  rw [cutTag] at h
  split at h
  · cases h
  · rename_i body after hsplit
    simp only at h
    split at h
    · rename_i region hregion
      refine ⟨region, body, after, hsplit, Region.ofName?_eq_some hregion, ?_⟩
      rw [cutRegion] at h
      split at h
      · cases region <;> cases h
      · cases h
      · cases h
      · rename_i hfind
        exact Region.overlaps_of_breakdown hfind
    · cases h

/-- A cut breaks down on a region, where delimiters overlap before its end tag. -/
theorem cut_eq_breakdown_iff {line : Nat} {s : List Char} :
    cut line s = .stop (.failed .breakdown) ↔
      ∃ (region : Region) (after : List Char), region.Begins s after ∧ region.Overlaps after := by
  constructor
  · intro h
    have hs := splitAtOpening_append s
    have hopen := splitAtOpening_after s
    rw [cut] at h
    generalize splitAtOpening s = parts at h hs hopen
    rcases parts with ⟨before, rest⟩
    simp only at h hs hopen
    split at h
    · rename_i he
      have hb : before = [] := by simpa using he
      rw [hb, List.nil_append] at hs
      subst hs
      rcases hopen with rfl | ⟨d, t, rfl, rfl | rfl⟩
      · cases h
      · rw [cutDelimited, if_pos rfl, cutOutput] at h
        split at h
        · cases h
        · cases h
      · rw [cutDelimited, if_neg (by decide)] at h
        rcases cutTag_breakdown h with ⟨region, body, after, hsplit, hname, overlaps⟩
        exact ⟨region, after, ⟨t, body, rfl, hsplit, hname⟩, overlaps⟩
    · cases h
  · rintro ⟨region, after, ⟨t, body, rfl, hsplit, hname⟩, overlaps⟩
    rw [Region.cut_of_closing hsplit hname, cutRegion, overlaps.breakdown]

/-- The rest of a source that is reached, on a line and with a builder, when all pieces before it
were accepted. -/
inductive Reached (source : List Char) : Builder → Nat → List Char → Prop where
  | start : Reached source .empty 1 source
  | next {b after : Builder} {p : Piece} {line line' : Nat} {s rest : List Char}
    (reached : Reached source b line s) (front : cut line s = .piece p line' rest)
    (accepted : b.add p = .ok after) : Reached source after line' rest

theorem Reached.compile_eq {source : String} {b : Builder} {line : Nat} {s : List Char}
    (h : Reached source.toList b line s) : compile source = b.compileFrom line s := by
  induction h with
  | start => rfl
  | next reached front accepted ih => rw [ih, Builder.compileFrom_of_piece front accepted]

/-- In a source, a region is reached whose end tag is searched over overlapping delimiters. The text
after the tag that opens the region is given. -/
def Region.Derails (region : Region) (source after : List Char) : Prop :=
  (∃ b line s, Reached source b line s ∧ region.Begins s after) ∧ region.Overlaps after

theorem Reached.derails_of_breakdown {source : List Char} {b : Builder} {line : Nat} {s : List Char}
    (reached : Reached source b line s) (h : b.compileFrom line s = .error .breakdown) :
    ∃ (region : Region) (after : List Char), region.Derails source after := by
  induction line, s using pieces.induct generalizing b with
  | case1 line s stop hc =>
    rw [Builder.compileFrom_of_stop hc] at h
    cases stop with
    | finished =>
      rcases mapError_eq_error_iff.mp h with ⟨e, -, he⟩
      cases he
    | failed failure =>
      cases h
      rcases cut_eq_breakdown_iff.mp hc with ⟨region, after, begins, overlaps⟩
      exact ⟨region, after, ⟨b, line, s, reached, begins⟩, overlaps⟩
  | case2 line s p line' rest hc more stop hm ih =>
    cases hadd : b.add p with
    | error e =>
      rw [Builder.compileFrom_of_refused hc hadd] at h
      cases h
    | ok next =>
      rw [Builder.compileFrom_of_piece hc hadd] at h
      exact ih (reached.next hc hadd) h

/-- Compiling breaks down where delimiters overlap in a region before its end tag, and nowhere
else. -/
theorem compile_eq_breakdown_iff (source : String) : compile source = .error .breakdown ↔
    ∃ (region : Region) (after : List Char), region.Derails source.toList after := by
  constructor
  · exact Reached.start.derails_of_breakdown
  · rintro ⟨region, after, ⟨b, line, s, reached, begins⟩, overlaps⟩
    rw [reached.compile_eq,
      Builder.compileFrom_of_stop (cut_eq_breakdown_iff.mpr ⟨region, after, begins, overlaps⟩)]
    rfl

end TemplateSite
