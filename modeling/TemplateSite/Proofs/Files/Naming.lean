import Mathlib.Data.List.Lex
import Mathlib.Data.String.Basic
import TemplateSite.Files.Name

/-!
# Names below a directory

A file name joined to a directory becomes the last piece and the last component of the path, after
what the directory spells. So the order of paths into one directory is the order of the names, and
different names lead to different places.
-/
namespace TemplateSite

/-- What a name in a directory is: a text without slashes that spells neither nothing nor dots that
lead elsewhere. -/
structure FileName (s : List Char) : Prop where
  nonempty : s ≠ []
  unbroken : '/' ∉ s
  not_here : s ≠ ['.']
  not_parent : s ≠ ['.', '.']

instance (s : List Char) : Decidable (FileName s) :=
  decidable_of_iff (s ≠ [] ∧ '/' ∉ s ∧ s ≠ ['.'] ∧ s ≠ ['.', '.'])
    ⟨fun h => ⟨h.1, h.2.1, h.2.2.1, h.2.2.2⟩, fun h => ⟨h.1, h.2, h.3, h.4⟩⟩

theorem FileName.head?_ne {s : List Char} (h : FileName s) : s.head? ≠ some '/' :=
  fun slash => h.unbroken (List.mem_of_mem_head? slash)

namespace Path

variable {s t : List Char}

/-! ### Pieces -/

theorem pieces_ne_nil (s : List Char) : pieces s ≠ [] := by
  fun_cases pieces s <;> simp

theorem pieces_cons {c : Char} (h : c ≠ '/') {piece : List Char} {more : List (List Char)}
    (hs : pieces s = piece :: more) : pieces (c :: s) = (c :: piece) :: more := by
  rw [pieces, hs]
  exact h

theorem pieces_append_slash (s t : List Char) : pieces (s ++ '/' :: t) = pieces s ++ pieces t := by
  induction s with
  | nil => rfl
  | cons c s ih =>
    by_cases h : c = '/'
    · subst h
      rw [List.cons_append, pieces, pieces, ih, List.cons_append]
    · obtain ⟨piece, more, hs⟩ := List.exists_cons_of_ne_nil (pieces_ne_nil s)
      have rest : pieces (s ++ '/' :: t) = piece :: (more ++ pieces t) := by
        rw [ih, hs, List.cons_append]
      rw [List.cons_append, pieces_cons h rest, pieces_cons h hs, List.cons_append]

theorem pieces_of_unbroken (h : '/' ∉ s) : pieces s = [s] := by
  induction s with
  | nil => rfl
  | cons c s ih =>
    rw [List.mem_cons, not_or] at h
    exact pieces_cons (Ne.symm h.1) (ih h.2)

theorem joinPieces_cons {ps : List (List Char)} (h : ps ≠ []) (s : List Char) :
    joinPieces (s :: ps) = s ++ '/' :: joinPieces ps := by
  obtain ⟨piece, more, rfl⟩ := List.exists_cons_of_ne_nil h
  simp [joinPieces, List.intercalate]

theorem joinPieces_pieces (s : List Char) : joinPieces (pieces s) = s := by
  induction s with
  | nil => rfl
  | cons c s ih =>
    by_cases h : c = '/'
    · subst h
      rw [pieces, joinPieces_cons (pieces_ne_nil s), ih, List.nil_append]
    · obtain ⟨piece, more, hs⟩ := List.exists_cons_of_ne_nil (pieces_ne_nil s)
      rw [hs] at ih
      rw [pieces_cons h hs]
      cases more with
      | nil => simpa [joinPieces, List.intercalate] using ih
      | cons next more =>
        rw [joinPieces_cons (List.cons_ne_nil _ _)] at ih ⊢
        rw [List.cons_append, ih]

theorem unbroken_of_mem_pieces {piece : List Char} (h : piece ∈ pieces s) : '/' ∉ piece := by
  induction s generalizing piece with
  | nil => simp_all [pieces]
  | cons c s ih =>
    by_cases slash : c = '/'
    · subst slash
      rcases List.mem_cons.mp h with rfl | there
      · exact List.not_mem_nil
      · exact ih there
    · obtain ⟨first, more, hs⟩ := List.exists_cons_of_ne_nil (pieces_ne_nil s)
      rw [pieces_cons slash hs] at h
      rcases List.mem_cons.mp h with rfl | there
      · have unbroken : '/' ∉ first := ih (hs ▸ List.mem_cons_self)
        simp [unbroken, Ne.symm slash]
      · exact ih (hs ▸ List.mem_cons_of_mem _ there)

theorem pieces_joinPieces {ps : List (List Char)} (nonempty : ps ≠ [])
    (unbroken : ∀ p ∈ ps, '/' ∉ p) : pieces (joinPieces ps) = ps := by
  induction ps with
  | nil => exact absurd rfl nonempty
  | cons p ps ih =>
    cases ps with
    | nil =>
      have joined : joinPieces [p] = p := by simp [joinPieces, List.intercalate]
      rw [joined, pieces_of_unbroken (unbroken p List.mem_cons_self)]
    | cons q ps =>
      rw [joinPieces_cons (List.cons_ne_nil q ps), pieces_append_slash,
        pieces_of_unbroken (unbroken p List.mem_cons_self),
        ih (List.cons_ne_nil q ps) fun p there => unbroken p (List.mem_cons_of_mem _ there)]
      rfl

/-! ### What stands before a name -/

/-- What a directory spells before a name that is joined to it. -/
def lead (dir : Path) : List Char :=
  if dir.text.isEmpty then []
  else if dir.text.toList.getLast? == some '/' then dir.text.toList
  else dir.text.toList ++ ['/']

theorem toList_join (dir : Path) {name : String} (h : name.toList.head? ≠ some '/') :
    (dir.join name).text.toList = dir.lead ++ name.toList := by
  rw [join, lead]
  by_cases empty : dir.text.isEmpty
  · simp [empty]
  · by_cases slash : dir.text.toList.getLast? = some '/'
    · simp [empty, slash, h]
    · simp [empty, slash, h]

theorem lead_eq (dir : Path) : dir.lead = [] ∨ ∃ s, dir.lead = s ++ ['/'] := by
  rw [lead]
  split
  · exact Or.inl rfl
  · split
    · rename_i slash
      rw [beq_iff_eq, List.getLast?_eq_some_iff] at slash
      exact Or.inr slash
    · exact Or.inr ⟨_, rfl⟩

def leadPieces (dir : Path) : List (List Char) :=
  (pieces dir.lead).dropLast

theorem pieces_lead_append (dir : Path) (s : List Char) :
    pieces (dir.lead ++ s) = dir.leadPieces ++ pieces s := by
  rw [leadPieces]
  rcases dir.lead_eq with h | ⟨a, h⟩
  · rw [h]
    rfl
  · rw [h, List.append_assoc, List.singleton_append, pieces_append_slash, pieces_append_slash]
    exact congrArg (· ++ pieces s) List.dropLast_concat.symm

theorem pieces_join (dir : Path) {name : String} (h : '/' ∉ name.toList) :
    pieces (dir.join name).text.toList = dir.leadPieces ++ [name.toList] := by
  rw [toList_join dir fun slash => h (List.mem_of_mem_head? slash), pieces_lead_append,
    pieces_of_unbroken h]

theorem join_inj {dir : Path} {a b : String} (ha : '/' ∉ a.toList) (hb : '/' ∉ b.toList)
    (h : dir.join a = dir.join b) : a = b := by
  have same := congrArg (fun p : Path => p.text.toList) h
  simp only [toList_join dir fun slash => ha (List.mem_of_mem_head? slash),
    toList_join dir fun slash => hb (List.mem_of_mem_head? slash)] at same
  exact String.toList_inj.mp (List.append_cancel_left same)

/-! ### Components -/

/-- The component at the front that is no name: the slash of an absolute path, or a dot. -/
def front (s : List Char) : List Component :=
  if s.head? == some '/' then [.root]
  else if (pieces s).head? == some ['.'] then [.here]
  else []

theorem componentsOf_eq (s : List Char) :
    componentsOf s = front s ++ (pieces s).filterMap component? := by
  simp only [componentsOf, front]
  split
  · rfl
  · split <;> rfl

theorem front_append_slash (s t : List Char) : front (s ++ '/' :: t) = front (s ++ ['/']) := by
  have pieced : ∀ t, (pieces (s ++ '/' :: t)).head? = (pieces s).head? := by
    intro t
    rw [pieces_append_slash, List.head?_append_of_ne_nil _ (pieces_ne_nil s)]
  rw [front, front, pieced, pieced]
  cases s <;> rfl

theorem front_concat_slash (h : s ≠ []) : front (s ++ ['/']) = front s := by
  rw [front, front, pieces_append_slash, List.head?_append_of_ne_nil _ (pieces_ne_nil s),
    List.head?_append_of_ne_nil _ h]

theorem componentsOf_append_slash (s t : List Char) :
    componentsOf (s ++ '/' :: t) =
      componentsOf (s ++ ['/']) ++ (pieces t).filterMap component? := by
  rw [componentsOf_eq, componentsOf_eq, front_append_slash, pieces_append_slash,
    pieces_append_slash]
  simp [pieces, component?]

theorem componentsOf_lead (dir : Path) : componentsOf dir.lead = dir.components := by
  rw [lead, components]
  split
  · rename_i empty
    rw [String.isEmpty_iff.mp empty]
    rfl
  · rename_i nonempty
    split
    · rfl
    · have some : dir.text.toList ≠ [] := by
        simpa using nonempty
      rw [componentsOf_eq, componentsOf_eq, front_concat_slash some, pieces_append_slash]
      simp [pieces, component?]

theorem component?_fileName (h : FileName s) : component? s = some (.name s) := by
  simp [component?, h.nonempty, h.not_here, h.not_parent]

theorem components_join (dir : Path) {name : String} (h : FileName name.toList) :
    (dir.join name).components = dir.components ++ [.name name.toList] := by
  rw [components, toList_join dir h.head?_ne, ← componentsOf_lead dir]
  have named : (pieces name.toList).filterMap component? = [.name name.toList] := by
    rw [pieces_of_unbroken h.unbroken]
    simp [component?_fileName h]
  rcases dir.lead_eq with nothing | ⟨a, slash⟩
  · have absent : front name.toList = [] := by
      simp [front, pieces_of_unbroken h.unbroken, h.head?_ne, h.not_here]
    rw [nothing, List.nil_append, componentsOf_eq, absent, named]
    rfl
  · rw [slash, List.append_assoc, List.singleton_append, componentsOf_append_slash, named]

/-! ### The order of paths -/

/-- The place of a component in the order of components: the front ones and two dots come before
names, which are in the order of their characters. -/
def Component.code : Component → List Nat
  | .root => [0]
  | .here => [1]
  | .parent => [2]
  | .name s => 3 :: s.map Char.toNat

/-- Paths are in the order of their components. -/
def key (p : Path) : List (List Nat) :=
  p.components.map Component.code

theorem codes_lt (h : s < t) : s.map Char.toNat < t.map Char.toNat := by
  induction h with
  | nil => exact .nil
  | cons _ ih => exact .cons ih
  | rel h => exact .rel h

theorem key_join_lt (dir : Path) {a b : String} (ha : FileName a.toList) (hb : FileName b.toList)
    (h : a < b) : (dir.join a).key < (dir.join b).key := by
  rw [key, key, components_join dir ha, components_join dir hb, List.map_append, List.map_append]
  have named : Component.code (.name a.toList) < Component.code (.name b.toList) :=
    .cons (codes_lt (String.lt_iff_toList_lt.mp h))
  exact List.Lex.append_left _ (.rel named) _

end Path
end TemplateSite
