import TemplateSite.Proofs.Files.Tree
import TemplateSite.Proofs.Success

/-!
# Where paths lead

A path is followed piece by piece through directories. So what a path leads to depends on the
directories on its way, and a name that is joined to a path is in the directory to which the path
leads.
-/
namespace TemplateSite.FileTree

variable {tree other : FileTree} {location base : Location} {entry : FileEntry}

/-! ### Following a path -/

/-- Where a piece leads from a directory, if its name is not too long. -/
def next? (location : Location) (piece : List Char) : Option Location :=
  if piece.isEmpty || piece == ['.'] then some location
  else if piece == ['.', '.'] then some location.dropLast
  else if maxNameLength < (String.ofList piece).utf8ByteSize then none
  else some (location ++ [String.ofList piece])

theorem next?_fileName {name : String} (named : FileName name.toList) :
    next? location name.toList =
      if maxNameLength < name.utf8ByteSize then none else some (location ++ [name]) := by
  simp [next?, named.nonempty, named.not_here, named.not_parent, String.ofList_toList]

/-- A path is followed from directory to directory, unless nothing has the name of its last
piece. -/
theorem follow_cons_ok {piece : List Char} {rest : List (List Char)} {place : Place}
    (h : tree.follow location (piece :: rest) = .ok place) :
    tree.entryAt? location = some .directory ∧ ∃ next, next? location piece = some next ∧
      (tree.follow next rest = .ok place ∨
        (rest.all List.isEmpty) = true ∧ tree.entryAt? next = none ∧
          next = location ++ [String.ofList piece] ∧
          place = .absent location (String.ofList piece) (!rest.isEmpty)) := by
  rw [follow] at h
  split at h
  · cases h
  · cases h
  · rename_i directory
    refine ⟨directory, ?_⟩
    rw [next?]
    split at h
    · rename_i void
      exact ⟨location, if_pos void, Or.inl h⟩
    · rename_i named
      rw [if_neg named]
      split at h
      · rename_i parent
        exact ⟨location.dropLast, if_pos parent, Or.inl h⟩
      · rename_i inside
        rw [if_neg inside]
        dsimp only at h
        split at h
        · cases h
        · rename_i short
          refine ⟨_, if_neg short, ?_⟩
          split at h
          · exact Or.inl h
          · rename_i absent
            split at h
            · rename_i last
              cases h
              exact Or.inr ⟨last, absent, rfl, rfl⟩
            · cases h

theorem follow_cons {piece : List Char} {rest : List (List Char)} {next : Location}
    (directory : tree.entryAt? location = some .directory)
    (leads : next? location piece = some next)
    (there : (tree.entryAt? next).isSome = true) :
    tree.follow location (piece :: rest) = tree.follow next rest := by
  rw [follow, directory]
  rw [next?] at leads
  dsimp only
  split at leads
  · rename_i void
    cases leads
    rw [if_pos void]
  · rename_i named
    rw [if_neg named]
    split at leads
    · rename_i parent
      cases leads
      rw [if_pos parent]
    · rename_i inside
      rw [if_neg inside]
      split at leads
      · cases leads
      · rename_i short
        cases leads
        obtain ⟨entry, there⟩ := Option.isSome_iff_exists.mp there
        rw [if_neg short, there]

theorem isSome_entryAt?_of_follow {pieces : List (List Char)} {place : Place}
    (h : tree.follow location pieces = .ok place) : (tree.entryAt? location).isSome = true := by
  cases pieces with
  | nil =>
    rw [follow] at h
    split at h
    · rename_i there
      rw [there]
      rfl
    · cases h
  | cons piece rest => rw [(follow_cons_ok h).1]; rfl

theorem follow_nil_ok {entry : FileEntry}
    (h : tree.follow location [] = .ok (.existing base entry)) :
    location = base ∧ tree.entryAt? base = some entry := by
  rw [follow] at h
  split at h
  · rename_i there
    cases h
    exact ⟨rfl, there⟩
  · cases h

theorem follow_nil (there : tree.entryAt? location = some entry) :
    tree.follow location [] = .ok (.existing location entry) := by
  rw [follow, there]

theorem follow_append {pieces rest : List (List Char)}
    (leads : tree.follow location pieces = .ok (.existing base .directory)) :
    tree.follow location (pieces ++ rest) = tree.follow base rest := by
  induction pieces generalizing location with
  | nil => rw [(follow_nil_ok leads).1, List.nil_append]
  | cons piece pieces ih =>
    obtain ⟨directory, next, step, later | ⟨-, -, -, absent⟩⟩ := follow_cons_ok leads
    · rw [List.cons_append, follow_cons directory step (isSome_entryAt?_of_follow later), ih later]
    · cases absent

/-- A path that ends in a file name leads through a directory. -/
theorem exists_follow_of_concat {pieces : List (List Char)} {name : List Char} {place : Place}
    (named : FileName name) (h : tree.follow location (pieces ++ [name]) = .ok place) :
    ∃ base, tree.follow location pieces = .ok (.existing base .directory) ∧
      tree.follow base [name] = .ok place := by
  induction pieces generalizing location with
  | nil => exact ⟨location, follow_nil (follow_cons_ok h).1, h⟩
  | cons piece pieces ih =>
    obtain ⟨directory, next, step, later | ⟨void, -⟩⟩ := follow_cons_ok h
    · obtain ⟨base, leads, last⟩ := ih later
      exact ⟨base, (follow_cons directory step (isSome_entryAt?_of_follow leads)).trans leads, last⟩
    · simp [named.nonempty] at void

theorem follow_fileName_ok {name : String} (named : FileName name.toList) {place : Place}
    (h : tree.follow location [name.toList] = .ok place) :
    ¬ maxNameLength < name.utf8ByteSize ∧
      ((∃ entry, tree.entryAt? (location ++ [name]) = some entry ∧
          place = .existing (location ++ [name]) entry) ∨
        tree.entryAt? (location ++ [name]) = none ∧ place = .absent location name false) := by
  obtain ⟨-, next, step, leads⟩ := follow_cons_ok h
  rw [next?_fileName named] at step
  split at step
  · cases step
  · rename_i short
    cases step
    refine ⟨short, ?_⟩
    rcases leads with there | ⟨-, free, -, rfl⟩
    · rw [follow] at there
      split at there
      · rename_i entry found
        cases there
        exact Or.inl ⟨entry, found, rfl⟩
      · cases there
    · rw [String.ofList_toList]
      exact Or.inr ⟨free, rfl⟩

/-- Everything that is a directory in one tree is a directory in another one, too, and relative
paths start at the same place. -/
structure Keeps (tree other : FileTree) : Prop where
  workingDirectory : other.workingDirectory = tree.workingDirectory
  directory : ∀ location, tree.entryAt? location = some .directory →
    other.entryAt? location = some .directory

theorem Keeps.follow (h : tree.Keeps other) {pieces : List (List Char)}
    (leads : tree.follow location pieces = .ok (.existing base .directory)) :
    other.follow location pieces = .ok (.existing base .directory) := by
  induction pieces generalizing location with
  | nil =>
    obtain ⟨rfl, there⟩ := follow_nil_ok leads
    exact follow_nil (h.directory _ there)
  | cons piece pieces ih =>
    obtain ⟨directory, next, step, later | ⟨-, -, -, absent⟩⟩ := follow_cons_ok leads
    · rw [follow_cons (h.directory _ directory) step (isSome_entryAt?_of_follow (ih later)),
        ih later]
    · cases absent

/-! ### Names joined to a directory -/

/-- The directory in which a name is that is joined to a path. -/
def Leads (tree : FileTree) (dir : Path) (base : Location) : Prop :=
  tree.follow (tree.startOf dir.lead) dir.leadPieces = .ok (.existing base .directory)

variable {dir : Path} {name : String}

theorem Leads.unique {place : Location} (h : tree.Leads dir base) (h' : tree.Leads dir place) :
    base = place := by
  have same := h.symm.trans h'
  cases same
  rfl

theorem Leads.entryAt? (h : tree.Leads dir base) : tree.entryAt? base = some .directory := by
  have stay := (follow_append h).symm.trans ((congrArg _ (List.append_nil _)).trans h)
  exact (follow_nil_ok stay).2

theorem Keeps.leads (h : tree.Keeps other) (leads : tree.Leads dir base) :
    other.Leads dir base := by
  have start : other.startOf dir.lead = tree.startOf dir.lead := by
    rw [startOf, startOf, h.workingDirectory]
  rw [Leads, start]
  exact h.follow leads

theorem startOf_lead_append (tree : FileTree) (dir : Path) {s : List Char}
    (relative : s.head? ≠ some '/') :
    tree.startOf (dir.lead ++ s) = tree.startOf dir.lead := by
  rw [startOf, startOf]
  rcases dir.lead_eq with nothing | ⟨t, slash⟩
  · rw [nothing, List.nil_append, beq_false_of_ne relative]
    rfl
  · rw [slash, List.head?_append_of_ne_nil _ (by simp)]

theorem locate_join (tree : FileTree) (dir : Path) (named : FileName name.toList)
    (taken : checkPath (dir.join name) = .ok ()) :
    tree.locate (dir.join name) =
      tree.follow (tree.startOf dir.lead) (dir.leadPieces ++ [name.toList]) := by
  rw [locate, taken]
  change tree.follow (tree.startOf (dir.join name).text.toList)
    (Path.pieces (dir.join name).text.toList) = _
  rw [Path.pieces_join dir named.unbroken, Path.toList_join dir named.head?_ne,
    startOf_lead_append tree dir named.head?_ne]

theorem checkPath_of_locate {path : Path} {place : Place} (located : tree.locate path = .ok place) :
    checkPath path = .ok () := by
  obtain ⟨_, taken, -⟩ := bind_eq_ok_iff.mp located
  exact taken

/-- What a file that was written below a directory needs to be found again. -/
structure Fits (dir : Path) (name : String) : Prop where
  taken : checkPath (dir.join name) = .ok ()
  short : ¬ maxNameLength < name.utf8ByteSize

theorem locate_of_leads (leads : tree.Leads dir base) (named : FileName name.toList)
    (fits : Fits dir name) (there : tree.entryAt? (base ++ [name]) = some entry) :
    tree.locate (dir.join name) = .ok (.existing (base ++ [name]) entry) := by
  have step : next? base name.toList = some (base ++ [name]) :=
    (next?_fileName named).trans (if_neg fits.short)
  rw [locate_join tree dir named fits.taken, follow_append leads,
    follow_cons leads.entryAt? step (by rw [there]; rfl), follow_nil there]

/-! ### The directory itself -/

/-- The directory that a path names; the empty path stands for the working directory. -/
def directoryAt? (tree : FileTree) (path : Path) : Option Location :=
  if path.text.isEmpty then some tree.workingDirectory
  else
    match tree.locate path with
    | .ok (.existing location .directory) => some location
    | _ => none

theorem Leads.directoryAt? (leads : tree.Leads dir base)
    (taken : dir.text.isEmpty = false → checkPath dir = .ok ()) :
    tree.directoryAt? dir = some base := by
  rw [FileTree.directoryAt?]
  cases empty : dir.text.isEmpty with
  | true =>
    have nothing : dir.lead = [] := if_pos empty
    rw [Leads, Path.leadPieces, nothing] at leads
    obtain ⟨here, -⟩ := follow_nil_ok leads
    rw [if_pos rfl, ← here]
    rfl
  | false =>
    have located : tree.locate dir = .ok (.existing base .directory) := by
      have directory := leads.entryAt?
      rw [locate, taken empty]
      change tree.follow (tree.startOf dir.text.toList) (Path.pieces dir.text.toList) = _
      by_cases slash : dir.text.toList.getLast? = some '/'
      · have lead : dir.lead = dir.text.toList := by
          simp [Path.lead, empty, slash]
        have pieces := dir.pieces_lead_append []
        rw [List.append_nil, lead] at pieces
        rw [Leads, lead] at leads
        rw [pieces, follow_append leads]
        exact (follow_cons directory rfl (by rw [directory]; rfl)).trans (follow_nil directory)
      · have lead : dir.lead = dir.text.toList ++ ['/'] := by
          simp [Path.lead, empty, slash]
        have some : dir.text.toList ≠ [] := by
          simpa using empty
        have start : tree.startOf dir.lead = tree.startOf dir.text.toList := by
          rw [lead, startOf, startOf, List.head?_append_of_ne_nil _ some]
        have pieces : dir.leadPieces = Path.pieces dir.text.toList := by
          rw [Path.leadPieces, lead, Path.pieces_append_slash]
          exact List.dropLast_concat
        rwa [Leads, start, pieces] at leads
    rw [if_neg Bool.false_ne_true, located]

end TemplateSite.FileTree
