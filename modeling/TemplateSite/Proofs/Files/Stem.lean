import TemplateSite.Proofs.Files.Naming

/-!
# Stems

What is left of a file name without its extension, and the file name that another extension gives.
An extension is replaced as a whole only if the stem before it has no extension of its own; a single
dot before it is no name at all.
-/
namespace TemplateSite

variable {s e stem : List Char}

/-- Looking for the last dot, nothing stops at what has none. -/
theorem passes_undotted (undotted : '.' ∉ e) : ∀ c ∈ e.reverse, (c != '.') = true := by
  intro c there
  rw [bne_iff_ne]
  rintro rfl
  exact undotted (List.mem_reverse.mp there)

theorem fileStem_append (undotted : '.' ∉ e) (nonempty : stem ≠ [])
    (not_parent : stem ++ '.' :: e ≠ ['.', '.']) : fileStem (stem ++ '.' :: e) = stem := by
  have before : ((stem ++ '.' :: e).reverse.dropWhile (· != '.')).drop 1 = stem.reverse := by
    rw [List.reverse_append, List.reverse_cons, List.append_assoc,
      List.dropWhile_append_of_pos (passes_undotted undotted)]
    rfl
  rw [fileStem, before]
  simp [nonempty, not_parent]

/-- Without a dot after its first character a name is its own stem. -/
theorem fileStem_of_undotted (h : '.' ∉ s.tail) : fileStem s = s := by
  cases s with
  | nil => rfl
  | cons c s =>
    rw [List.tail_cons] at h
    have before : (((c :: s).reverse.dropWhile (· != '.')).drop 1).isEmpty = true := by
      rw [List.reverse_cons, List.dropWhile_append_of_pos (passes_undotted h)]
      by_cases dot : c = '.' <;> simp [dot]
    rw [fileStem, before, Bool.true_or, if_pos rfl]

theorem fileStem_ne (h : '.' ∈ s.tail) (not_parent : s ≠ ['.', '.']) : fileStem s ≠ s := by
  cases s with
  | nil => cases h
  | cons c s =>
    obtain ⟨after, before, split, undotted⟩ :=
      List.eq_append_cons_of_mem (List.mem_reverse.mpr h)
    have split : c :: s = (c :: before.reverse) ++ '.' :: after.reverse := by
      have split := congrArg List.reverse split
      rw [List.reverse_reverse, List.reverse_append, List.reverse_cons, List.append_assoc,
        List.tail_cons] at split
      rw [split]
      rfl
    rw [split] at not_parent ⊢
    rw [fileStem_append (fun dot => undotted (List.mem_reverse.mp dot)) (List.cons_ne_nil _ _)
      not_parent]
    intro same
    have shorter := congrArg List.length same
    rw [List.length_append, List.length_cons] at shorter
    simp at shorter

theorem fileStem_begins (s : List Char) : fileStem s <+: s := by
  rw [fileStem]
  split
  · exact List.prefix_rfl
  · apply List.reverse_suffix.mp
    rw [List.reverse_reverse]
    exact (List.drop_suffix _ _).trans (List.dropWhile_suffix _)

/-- A stem that is a file name of its own and has no extension. -/
structure PlainStem (s : List Char) : Prop extends FileName s where
  undotted : '.' ∉ s.tail

instance (s : List Char) : Decidable (PlainStem s) :=
  decidable_of_iff (FileName s ∧ '.' ∉ s.tail) ⟨fun h => ⟨h.1, h.2⟩, fun h => ⟨h.1, h.2⟩⟩

namespace Path

theorem dropVoidPieces_concat (ps : List (List Char)) (nonempty : s ≠ []) (not_here : s ≠ ['.']) :
    dropVoidPieces (ps ++ [s]) = ps ++ [s] := by
  rw [dropVoidPieces, List.reverse_append, List.reverse_singleton, List.singleton_append,
    List.dropWhile_cons_of_neg]
  · simp
  · simp [nonempty, not_here]

theorem join_eq_joinPieces (dir : Path) {name : String} (unbroken : '/' ∉ name.toList) :
    dir.join name = ⟨String.ofList (joinPieces (dir.leadPieces ++ [name.toList]))⟩ := by
  rw [← pieces_join dir unbroken, joinPieces_pieces, String.ofList_toList]

theorem unbroken_renamed (unbroken : '/' ∉ s) (unbroken' : '/' ∉ e) :
    '/' ∉ fileStem s ++ '.' :: e := by
  intro slash
  rcases List.mem_append.mp slash with slash | slash
  · exact unbroken ((fileStem_begins s).subset slash)
  · rcases List.mem_cons.mp slash with slash | slash
    · cases slash
    · exact unbroken' slash

theorem withExtension_join (dir : Path) {name extension : String} (named : FileName name.toList)
    (unbroken : '/' ∉ extension.toList) :
    (dir.join name).withExtension extension =
      dir.join (String.ofList (fileStem name.toList ++ '.' :: extension.toList)) := by
  have renamed :
      '/' ∉ (String.ofList (fileStem name.toList ++ '.' :: extension.toList)).toList := by
    rw [String.toList_ofList]
    exact unbroken_renamed named.unbroken unbroken
  rw [join_eq_joinPieces dir renamed, withExtension, pieces_join dir named.unbroken,
    dropVoidPieces_concat _ named.nonempty named.not_here, List.getLast?_concat,
    List.dropLast_concat, String.toList_ofList]
  exact if_neg fun parent => named.not_parent (eq_of_beq parent)

theorem withExtension_join_parent (dir : Path) (extension : String) :
    (dir.join "..").withExtension extension = dir.join ".." := by
  have pieced : pieces (dir.join "..").text.toList = dir.leadPieces ++ [['.', '.']] :=
    pieces_join dir (by decide)
  rw [withExtension, pieced, dropVoidPieces_concat _ (by decide) (by decide),
    List.getLast?_concat]
  rfl

theorem dropVoidPieces_begins (ps : List (List Char)) : dropVoidPieces ps <+: ps := by
  apply List.reverse_suffix.mp
  rw [dropVoidPieces, List.reverse_reverse]
  exact List.dropWhile_suffix _

/-- A single dot is dropped, so that the extension goes to what is before it. -/
theorem withExtension_join_here (dir : Path) {extension : String}
    (unbroken : '/' ∉ extension.toList) :
    (dir.join ".").withExtension extension = dir.join "." ∨
      (pieces ((dir.join ".").withExtension extension).text.toList).length ≤
        dir.leadPieces.length := by
  have pieced : pieces (dir.join ".").text.toList = dir.leadPieces ++ [['.']] :=
    pieces_join dir (by decide)
  have dropped : dropVoidPieces (dir.leadPieces ++ [['.']]) = dropVoidPieces dir.leadPieces := by
    simp [dropVoidPieces]
  have begins := dropVoidPieces_begins dir.leadPieces
  have pieces_unbroken : ∀ p ∈ dropVoidPieces dir.leadPieces, '/' ∉ p := fun p there =>
    unbroken_of_mem_pieces (List.dropLast_subset _ (begins.subset there))
  rw [withExtension, pieced, dropped]
  split
  · exact Or.inl rfl
  · rename_i name last
    split
    · exact Or.inl rfl
    · right
      have there := List.mem_of_getLast? last
      rw [String.toList_ofList, pieces_joinPieces (by simp)]
      · rw [List.length_append, List.length_dropLast, List.length_singleton,
          Nat.sub_add_cancel (List.length_pos_of_mem there)]
        exact begins.length_le
      · intro p mem
        rcases List.mem_append.mp mem with mem | mem
        · exact pieces_unbroken p (List.dropLast_subset _ mem)
        · rw [List.mem_singleton.mp mem]
          exact unbroken_renamed (pieces_unbroken name there) unbroken

/-- A stem gets an extension without losing anything exactly when it is plain. -/
theorem withExtension_join_eq_iff (dir : Path) {stem extension : String} (nonempty : stem ≠ "")
    (unbroken : '/' ∉ stem.toList) (unbroken' : '/' ∉ extension.toList) :
    (dir.join stem).withExtension extension = dir.join (stem ++ "." ++ extension) ↔
      PlainStem stem.toList := by
  have extended : (stem ++ "." ++ extension).toList = stem.toList ++ '.' :: extension.toList := by
    simp
  have whole : '/' ∉ (stem ++ "." ++ extension).toList := by
    simp [extended, unbroken, unbroken']
  have longer : stem ≠ stem ++ "." ++ extension := by
    intro same
    have same := congrArg (fun s : String => s.toList.length) same
    simp [extended] at same
  constructor
  · intro same
    by_cases here : stem = "."
    · subst here
      exfalso
      rcases withExtension_join_here dir unbroken' with kept | fewer
      · exact longer (join_inj unbroken whole (kept.symm.trans same))
      · rw [same, pieces_join dir whole, List.length_append] at fewer
        exact Nat.not_succ_le_self _ fewer
    · by_cases parent : stem = ".."
      · subst parent
        exact absurd (join_inj unbroken whole ((withExtension_join_parent dir _).symm.trans same))
          longer
      · have named : FileName stem.toList :=
          ⟨fun h => nonempty (String.toList_inj.mp h), unbroken,
            fun h => here (String.toList_inj.mp h), fun h => parent (String.toList_inj.mp h)⟩
        refine ⟨named, fun dot => fileStem_ne dot named.not_parent ?_⟩
        rw [withExtension_join dir named unbroken'] at same
        have same := join_inj
          (by rw [String.toList_ofList]; exact unbroken_renamed unbroken unbroken') whole same
        have same := congrArg String.toList same
        rw [String.toList_ofList, extended] at same
        exact List.append_cancel_right same
  · intro plain
    rw [withExtension_join dir plain.toFileName unbroken', fileStem_of_undotted plain.undotted,
      ← extended, String.ofList_toList]

end Path

end TemplateSite
