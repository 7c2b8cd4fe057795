import TemplateSite.Proofs.Template.Spelling

/-!
# A piece and what follows it

What a cut takes off the front of a source depends on that stretch alone. A piece between delimiters
is cut off in the same way whatever follows it, and a text whenever something follows it that starts
with an opening delimiter.
-/
namespace TemplateSite

def Piece.delimited : Piece → Bool
  | .text _ _ => false
  | _ => true

theorem head?_append_cons (s t u : List Char) (c : Char) :
    (s ++ c :: t).head? = (s ++ c :: u).head? := by
  cases s <;> rfl

theorem splitAtClosing_front {d : Char} {q : Option Char} {s body after : List Char}
    (h : splitAtClosing d q s = some (body, after)) (t : List Char) :
    splitAtClosing d q (body ++ d :: '\x7d' :: t) = some (body, t) := by
  induction s generalizing q body with
  | nil => cases q <;> cases h
  | cons c rest ih =>
    cases q with
    | some q =>
      rw [splitAtClosing, Option.map_eq_some_iff] at h
      rcases h with ⟨⟨found, _⟩, hf, he⟩
      cases he
      rw [List.cons_append, splitAtClosing, ih hf]
      rfl
    | none =>
      rw [splitAtClosing] at h
      split at h
      · rename_i hq
        rcases Option.map_eq_some_iff.mp h with ⟨⟨found, _⟩, hf, he⟩
        cases he
        rw [List.cons_append, splitAtClosing, if_pos hq, ih hf]
        rfl
      · rename_i hq
        split at h
        · rename_i hd
          cases h
          rw [List.nil_append, splitAtClosing, ← hd.1, if_neg hq, if_pos ⟨rfl, rfl⟩]
          rfl
        · rename_i hd
          rcases Option.map_eq_some_iff.mp h with ⟨⟨found, _⟩, hf, he⟩
          cases he
          rw [splitAtClosing_eq hf, head?_append_cons _ _ ('\x7d' :: t)] at hd
          rw [List.cons_append, splitAtClosing, if_neg hq, if_neg hd, ih hf]
          rfl

/-- The first closing delimiter of a tag is found at the latest where one is known to stand. -/
theorem splitAtTagEnd_within (s : List Char) : ∃ body between, ∀ t,
    splitAtTagEnd (s ++ '%' :: '\x7d' :: t) = some (body, between ++ t) := by
  induction s with
  | nil => exact ⟨[], [], fun t => rfl⟩
  | cons c s ih =>
    rcases ih with ⟨body, between, hs⟩
    by_cases hc : c = '%' ∧ (s ++ ['%']).head? = some '\x7d'
    · refine ⟨[], s.tail ++ ['%', '\x7d'], ?_⟩
      intro t
      cases s with
      | nil => exact absurd hc.2 (by simp)
      | cons e s =>
        rw [List.cons_append, splitAtTagEnd, if_pos ⟨hc.1, hc.2⟩]
        simp
    · refine ⟨c :: body, between, ?_⟩
      intro t
      rw [head?_append_cons s [] ('\x7d' :: t)] at hc
      rw [List.cons_append, splitAtTagEnd, if_neg hc, hs t]
      rfl

/-- The stretch up to the end of a region ends in a closing delimiter after two characters at
least. -/
theorem findRegionEnd_last {region : Region} {chunk rest body : List Char} {dashes : Dashes}
    {line line' : Nat}
    (h : findRegionEnd region line (chunk ++ rest) = .found body dashes line' rest) :
    ∃ a b inner, chunk = a :: b :: (inner ++ ['%', '\x7d']) := by
  rcases findRegionEnd_eq_found h with ⟨close, hs, -, -⟩
  rw [List.append_cancel_right hs, enclosedTag, enclosed]
  rcases body with _ | ⟨a, _ | ⟨b, body⟩⟩
  · exact ⟨_, _, _, rfl⟩
  · exact ⟨a, _, '%' :: (dash dashes.left ++ close ++ dash dashes.right), rfl⟩
  · exact ⟨a, b, body ++ '\x7b' :: '%' :: (dash dashes.left ++ close ++ dash dashes.right), by simp⟩

/-- The end of a region is found in the same place whatever follows it. -/
theorem findRegionEnd_front {region : Region} {chunk rest body : List Char} {dashes : Dashes}
    {line line' : Nat}
    (h : findRegionEnd region line (chunk ++ rest) = .found body dashes line' rest)
    (t : List Char) : findRegionEnd region line (chunk ++ t) = .found body dashes line' t := by
  induction chunk generalizing line body with
  | nil => exact absurd (findRegionEnd_length h) (Nat.lt_irrefl _)
  | cons c chunk ih =>
    rcases findRegionEnd_last h with ⟨_, second, inner, hlast⟩
    cases hlast
    -- Where the search goes on, what it finds further on is found with any rest.
    have further (hb : (findRegionEnd region (lineAfter c line)
        (second :: (inner ++ ['%', '\x7d']) ++ rest)).cons c = .found body dashes line' rest) :
        (findRegionEnd region (lineAfter c line)
          (second :: (inner ++ ['%', '\x7d']) ++ t)).cons c = .found body dashes line' t := by
      rcases RegionEnd.cons_eq_found hb with ⟨tail, ht, rfl⟩
      rw [ih ht]
      rfl
    have shift (u : List Char) : second :: (inner ++ ['%', '\x7d']) ++ u =
        second :: (inner ++ '%' :: '\x7d' :: u) := by
      simp
    rcases splitAtTagEnd_within inner with ⟨found, between, hfound⟩
    rw [List.cons_append, shift, findRegionEnd] at h
    rw [List.cons_append, shift, findRegionEnd]
    rw [shift, shift] at further
    simp only [List.head?_cons, List.tail_cons, hfound] at h ⊢
    split at h
    · rename_i hopen
      rw [if_pos hopen]
      split at h
      · cases h
      · rename_i hhead
        rw [head?_append_cons inner _ ('\x7d' :: t)] at hhead
        rw [if_neg hhead]
        split at h
        · rename_i hclose
          rw [if_pos hclose]
          simp only [RegionEnd.found.injEq] at h
          rcases h with ⟨rfl, rfl, rfl, hr⟩
          rw [List.append_left_eq_self.mp hr, List.nil_append]
        · rename_i hclose
          rw [if_neg hclose]
          exact further h
    · rename_i hopen
      rw [if_neg hopen]
      exact further h

theorem cutRegion_front {region : Region} {start line line' : Nat} {opening : Dashes}
    {chunk rest : List Char} {p : Piece}
    (h : cutRegion region start opening line (chunk ++ rest) = .piece p line' rest)
    (t : List Char) : cutRegion region start opening line (chunk ++ t) = .piece p line' t := by
  rw [cutRegion] at h ⊢
  split at h
  · rename_i body closing next after hfound
    have hafter : after = rest := by
      cases region <;> cases h <;> rfl
    subst hafter
    rw [findRegionEnd_front hfound]
    cases region with
    | raw =>
      cases h
      rfl
    | comment =>
      cases h
      rfl
  · cases h
  · cases h
  · cases h

theorem cutOutput_front {line line' : Nat} {chunk rest : List Char} {p : Piece}
    (h : cutOutput line (chunk ++ rest) = .piece p line' rest) (t : List Char) :
    cutOutput line (chunk ++ t) = .piece p line' t := by
  rw [cutOutput] at h ⊢
  split at h
  · cases h
  · rename_i body after heq
    simp only [Cut.piece.injEq] at h
    rcases h with ⟨rfl, rfl, rfl⟩
    have hall : chunk ++ after = (body ++ ['\x7d', '\x7d']) ++ after := by
      rw [splitAtClosing_eq heq]
      simp
    have hchunk := List.append_cancel_right hall
    have hs : chunk ++ t = body ++ '\x7d' :: '\x7d' :: t := by
      rw [hchunk]
      simp
    rw [hs, splitAtClosing_front heq]

theorem cutTag_front {line line' : Nat} {chunk rest : List Char} {p : Piece}
    (h : cutTag line (chunk ++ rest) = .piece p line' rest) (t : List Char) :
    cutTag line (chunk ++ t) = .piece p line' t := by
  rw [cutTag] at h ⊢
  split at h
  · cases h
  · rename_i body after heq
    -- The tag itself stands before its body, if it opens a region, and all of it before the rest.
    have split_off (more : List Char) (hmore : after = more ++ rest) :
        splitAtClosing '%' none (chunk ++ t) = some (body, more ++ t) := by
      have hall : chunk ++ rest = (body ++ '%' :: '\x7d' :: more) ++ rest := by
        rw [splitAtClosing_eq heq, hmore]
        simp
      have hchunk := List.append_cancel_right hall
      have hs : chunk ++ t = body ++ '%' :: '\x7d' :: (more ++ t) := by
        rw [hchunk]
        simp
      rw [hs, splitAtClosing_front heq]
    simp only at h
    split at h
    · rename_i region hregion
      rcases cutRegion_eq_piece (Region.ofName?_eq_some hregion) h with ⟨more, rfl, -, -, -⟩
      rw [split_off more rfl]
      simp only [hregion]
      exact cutRegion_front h t
    · rename_i hregion
      simp only [Cut.piece.injEq] at h
      rcases h with ⟨rfl, rfl, rfl⟩
      rw [split_off [] rfl]
      simp only [hregion, List.nil_append]

theorem cutDelimited_front {line line' : Nat} {chunk rest : List Char} {p : Piece}
    (h : cutDelimited line (chunk ++ rest) = .piece p line' rest) (hc : 2 ≤ chunk.length)
    (t : List Char) : cutDelimited line (chunk ++ t) = .piece p line' t := by
  rcases chunk with _ | ⟨a, _ | ⟨b, chunk⟩⟩
  · cases hc
  · simp at hc
  · rw [List.cons_append, List.cons_append, cutDelimited] at h ⊢
    split at h
    · rename_i hb
      rw [if_pos hb]
      exact cutOutput_front h t
    · rename_i hb
      rw [if_neg hb]
      exact cutTag_front h t

theorem Piece.Spelled.opens {p : Piece} {chunk : List Char} (h : p.Spelled chunk)
    (hp : p.delimited = true) : ∃ d tail, chunk = '\x7b' :: d :: tail ∧ (d = '\x7b' ∨ d = '%') := by
  cases h with
  | text line nonempty plain => cases hp
  | output line dashes body => exact ⟨_, _, rfl, Or.inl rfl⟩
  | tag line dashes inner split region => exact ⟨_, _, rfl, Or.inr rfl⟩
  | raw line opening body closing name last => exact ⟨_, _, rfl, Or.inr rfl⟩
  | comment line opening closing name last => exact ⟨_, _, rfl, Or.inr rfl⟩

theorem Opens.append {s t : List Char} (hs : Opens s) (ht : Opens t) : Opens (s ++ t) := by
  rcases hs with rfl | ⟨d, rest, rfl, hd⟩
  · exact ht
  · exact Or.inr ⟨d, rest ++ t, rfl, hd⟩

theorem Piece.Spelled.opens_append {p : Piece} {chunk : List Char} (h : p.Spelled chunk)
    (hp : p.delimited = true) (t : List Char) : Opens (chunk ++ t) := by
  rcases h.opens hp with ⟨d, tail, rfl, hd⟩
  exact Or.inr ⟨d, tail ++ t, rfl, hd⟩

theorem Opens.cut {s : List Char} (h : Opens s) (line : Nat) : cut line s = cutDelimited line s := by
  rw [TemplateSite.cut, h.splitAtOpening]
  rfl

/-- The text before an opening delimiter does not end in the first character of one. -/
theorem splitAtOpening_last {s : List Char} (h : (splitAtOpening s).2 ≠ []) :
    (splitAtOpening s).1.getLast? ≠ some '\x7b' := by
  induction s with
  | nil => exact absurd rfl h
  | cons c rest ih =>
    rw [splitAtOpening] at h ⊢
    split
    · simp
    · rename_i hc
      rw [if_neg hc] at h
      have hl := ih h
      have hs := splitAtOpening_append rest
      have ha := splitAtOpening_after rest
      generalize splitAtOpening rest = parts at h hl hs ha
      rcases parts with ⟨before, after⟩
      simp only at h hl hs ha ⊢
      cases before with
      | cons e before => rwa [List.getLast?_cons_cons]
      | nil =>
        rcases ha with rfl | ⟨d, tail, rfl, hd⟩
        · exact absurd rfl h
        · rintro hb
          cases hb
          exact hc ⟨rfl, by simp [← hs]⟩

theorem cutRegion_delimited {region : Region} {start line line' : Nat} {opening : Dashes}
    {s rest : List Char} {p : Piece}
    (h : cutRegion region start opening line s = .piece p line' rest) : p.delimited = true := by
  rw [cutRegion] at h
  split at h
  · cases region <;> cases h <;> rfl
  · cases h
  · cases h
  · cases h

theorem cutDelimited_delimited {line line' : Nat} {s rest : List Char} {p : Piece}
    (h : cutDelimited line s = .piece p line' rest) : p.delimited = true := by
  rw [cutDelimited.eq_def] at h
  split at h
  · split at h
    · rw [cutOutput] at h
      split at h
      · cases h
      · cases h
        rfl
    · rw [cutTag] at h
      split at h
      · cases h
      · simp only at h
        split at h
        · exact cutRegion_delimited h
        · cases h
          rfl
  · cases h

theorem splitAtOpening_of_cut {line line' : Nat} {s rest : List Char} {p : Piece}
    (h : cut line s = .piece p line' rest) (hp : p.delimited = false) :
    p = .text line (splitAtOpening s).1 ∧ rest = (splitAtOpening s).2 ∧
      line' = line + lineEnds (splitAtOpening s).1 ∧ (splitAtOpening s).1 ≠ [] := by
  rw [cut] at h
  generalize splitAtOpening s = parts at h
  rcases parts with ⟨before, after⟩
  simp only at h ⊢
  split at h
  · rw [cutDelimited_delimited h] at hp
    cases hp
  · rename_i hb
    cases h
    exact ⟨rfl, rfl, rfl, by simpa using hb⟩

/-- A text at the front of a source is plain, and what follows it starts with an opening delimiter,
if anything follows it. -/
theorem text_of_cut {line line' : Nat} {chunk rest : List Char} {p : Piece}
    (h : cut line (chunk ++ rest) = .piece p line' rest) (hp : p.delimited = false) :
    p = .text line chunk ∧ chunk ≠ [] ∧ Plain chunk ∧ Opens rest ∧
      (rest ≠ [] → chunk.getLast? ≠ some '\x7b') := by
  rcases splitAtOpening_of_cut h hp with ⟨rfl, hrest, -, nonempty⟩
  have hs := splitAtOpening_append (chunk ++ rest)
  rw [← hrest] at hs
  have hchunk := List.append_cancel_right hs
  have plain := splitAtOpening_plain (chunk ++ rest)
  have opens : Opens (splitAtOpening (chunk ++ rest)).2 := splitAtOpening_after _
  have last := splitAtOpening_last (s := chunk ++ rest)
  rw [hchunk] at nonempty plain last ⊢
  rw [← hrest] at opens last
  exact ⟨rfl, nonempty, plain, opens, last⟩

/-- A cut depends only on what it takes, if that stands between delimiters or what follows starts
with an opening delimiter. -/
theorem cut_front {line line' : Nat} {chunk rest t : List Char} {p : Piece}
    (h : cut line (chunk ++ rest) = .piece p line' rest)
    (ht : p.delimited = true ∨ rest ≠ [] ∧ Opens t) :
    cut line (chunk ++ t) = .piece p line' t := by
  rcases cut_eq_piece h with ⟨_, eq, spelled, -, after⟩
  cases List.append_cancel_right eq
  by_cases hp : p.delimited = true
  · rw [(spelled.opens_append hp _).cut] at h ⊢
    refine cutDelimited_front h ?_ t
    rcases spelled.opens hp with ⟨d, tail, rfl, -⟩
    simp
  · rcases ht with hd | ⟨hr, ht⟩
    · exact absurd hd hp
    · rcases text_of_cut h (by simpa using hp) with ⟨rfl, nonempty, plain, -, last⟩
      rw [after]
      exact cut_text nonempty plain (last hr) ht line

theorem pieces_nil (line : Nat) : pieces line [] = ([], .finished) :=
  pieces_of_stop rfl

end TemplateSite
