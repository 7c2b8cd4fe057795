import TemplateSite.Template.Piece

/-!
# All pieces of a source

Every cut leaves less of the source than there was, so cutting ends. The splits lose nothing: what
they return, with the delimiter they drop, is the text they were given.
-/
namespace TemplateSite

theorem splitAtOpening_append (s : List Char) :
    (splitAtOpening s).1 ++ (splitAtOpening s).2 = s := by
  induction s with
  | nil => rfl
  | cons c rest ih =>
    rw [splitAtOpening]
    split
    · rfl
    · simp [ih]

theorem splitAtClosing_eq {d : Char} {q : Option Char} {s body after : List Char}
    (h : splitAtClosing d q s = some (body, after)) : s = body ++ d :: '\x7d' :: after := by
  induction s generalizing q body with
  | nil => cases q <;> simp [splitAtClosing] at h
  | cons c rest ih =>
    cases q with
    | some q =>
      simp only [splitAtClosing, Option.map_eq_some_iff, Prod.mk.injEq] at h
      obtain ⟨⟨b, a⟩, hb, rfl, rfl⟩ := h
      simp [ih hb]
    | none =>
      rw [splitAtClosing] at h
      split at h
      · simp only [Option.map_eq_some_iff, Prod.mk.injEq] at h
        obtain ⟨⟨b, a⟩, hb, rfl, rfl⟩ := h
        simp [ih hb]
      · split at h
        · rename_i hd
          simp only [Option.some.injEq, Prod.mk.injEq] at h
          obtain ⟨rfl, rfl⟩ := h
          obtain ⟨rfl, hr⟩ := hd
          cases rest with
          | nil => simp at hr
          | cons e tail =>
            simp at hr
            simp [hr]
        · simp only [Option.map_eq_some_iff, Prod.mk.injEq] at h
          obtain ⟨⟨b, a⟩, hb, rfl, rfl⟩ := h
          simp [ih hb]

theorem splitAtTagEnd_eq {s body after : List Char}
    (h : splitAtTagEnd s = some (body, after)) : s = body ++ '%' :: '\x7d' :: after := by
  induction s generalizing body with
  | nil => simp [splitAtTagEnd] at h
  | cons c rest ih =>
    rw [splitAtTagEnd] at h
    split at h
    · rename_i hd
      simp only [Option.some.injEq, Prod.mk.injEq] at h
      obtain ⟨rfl, rfl⟩ := h
      obtain ⟨rfl, hr⟩ := hd
      cases rest with
      | nil => simp at hr
      | cons e tail =>
        simp at hr
        simp [hr]
    · simp only [Option.map_eq_some_iff, Prod.mk.injEq] at h
      obtain ⟨⟨b, a⟩, hb, rfl, rfl⟩ := h
      simp [ih hb]

theorem RegionEnd.cons_eq_found {c : Char} {e : RegionEnd} {body rest : List Char}
    {dashes : Dashes} {line : Nat} (h : e.cons c = .found body dashes line rest) :
    ∃ tail, e = .found tail dashes line rest ∧ body = c :: tail := by
  cases e <;> simp [RegionEnd.cons] at h
  obtain ⟨rfl, rfl, rfl, rfl⟩ := h
  exact ⟨_, rfl, rfl⟩

theorem findRegionEnd_length {region : Region} {s body rest : List Char} {dashes : Dashes}
    {line line' : Nat} (h : findRegionEnd region line s = .found body dashes line' rest) :
    rest.length < s.length := by
  induction s generalizing line body with
  | nil => simp [findRegionEnd] at h
  | cons c tail ih =>
    have further : ∀ {l : Nat},
        (findRegionEnd region l tail).cons c = .found body dashes line' rest →
        rest.length < (c :: tail).length := by
      intro l hl
      obtain ⟨b, hb, -⟩ := RegionEnd.cons_eq_found hl
      have := ih hb
      simp
      omega
    rw [findRegionEnd] at h
    split at h
    · split at h
      · simp at h
      · split at h
        · simp at h
        · rename_i inner after heq
          have hlen := congrArg List.length (splitAtTagEnd_eq heq)
          simp only [List.length_append, List.length_cons, List.length_tail] at hlen
          simp only at h
          split at h
          · simp only [RegionEnd.found.injEq] at h
            obtain ⟨-, -, -, rfl⟩ := h
            simp
            omega
          · exact further h
    · exact further h

theorem cutRegion_length {region : Region} {start line line' : Nat} {opening : Dashes}
    {s rest : List Char} {p : Piece}
    (h : cutRegion region start opening line s = .piece p line' rest) :
    rest.length < s.length := by
  unfold cutRegion at h
  split at h <;> try simp at h
  rename_i heq
  have := findRegionEnd_length heq
  cases region <;> simp at h <;> obtain ⟨-, -, rfl⟩ := h <;> exact this

theorem cutOutput_length {line line' : Nat} {s rest : List Char} {p : Piece}
    (h : cutOutput line s = .piece p line' rest) : rest.length < s.length := by
  unfold cutOutput at h
  split at h
  · simp at h
  · rename_i heq
    have hlen := congrArg List.length (splitAtClosing_eq heq)
    simp at h hlen
    obtain ⟨-, -, rfl⟩ := h
    omega

theorem cutTag_length {line line' : Nat} {s rest : List Char} {p : Piece}
    (h : cutTag line s = .piece p line' rest) : rest.length < s.length := by
  unfold cutTag at h
  split at h
  · simp at h
  · rename_i heq
    have hlen := congrArg List.length (splitAtClosing_eq heq)
    simp only [List.length_append, List.length_cons] at hlen
    simp only at h
    split at h
    · have := cutRegion_length h
      omega
    · simp at h
      obtain ⟨-, -, rfl⟩ := h
      omega

theorem cutDelimited_length {line line' : Nat} {s rest : List Char} {p : Piece}
    (h : cutDelimited line s = .piece p line' rest) : rest.length < s.length := by
  unfold cutDelimited at h
  split at h
  · split at h
    · have := cutOutput_length h
      simp only [List.length_cons]
      omega
    · have := cutTag_length h
      simp only [List.length_cons]
      omega
  · cases h

theorem cut_length {line line' : Nat} {s rest : List Char} {p : Piece}
    (h : cut line s = .piece p line' rest) : rest.length < s.length := by
  have hs := congrArg List.length (splitAtOpening_append s)
  rw [List.length_append] at hs
  unfold cut at h
  generalize splitAtOpening s = parts at h hs
  obtain ⟨before, after⟩ := parts
  simp only at h hs
  split at h
  · have := cutDelimited_length h
    omega
  · rename_i he
    cases h
    have := List.length_pos_iff.mpr (fun hn => he (List.isEmpty_iff.mpr hn))
    omega

/-- The pieces of a source that is on the given line, and why the cutting stopped. -/
def pieces (line : Nat) (s : List Char) : List Piece × Stop :=
  match _h : cut line s with
  | .stop stop => ([], stop)
  | .piece p line rest =>
    let (more, stop) := pieces line rest
    (p :: more, stop)
termination_by s.length
decreasing_by exact cut_length _h

theorem pieces_of_stop {line : Nat} {s : List Char} {stop : Stop} (h : cut line s = .stop stop) :
    pieces line s = ([], stop) := by
  rw [pieces]
  split <;> simp_all

theorem pieces_of_piece {line line' : Nat} {s rest : List Char} {p : Piece}
    (h : cut line s = .piece p line' rest) :
    pieces line s = (p :: (pieces line' rest).1, (pieces line' rest).2) := by
  rw [pieces]
  split <;> simp_all

end TemplateSite
