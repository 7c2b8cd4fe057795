import TemplateSite.Proofs.Files.Following

/-!
# Writing files

A file that is written below a directory is at the location of the directory with its name, and
nothing else changes. So files with locations of their own are all there in the end. Directories are
made where nothing is. A tree stays proper whatever is written to it and made in it.
-/
namespace TemplateSite.FileTree

variable {tree other made : FileTree} {location base : Location} {entry : FileEntry}
  {dir path : Path} {name : String} {content : ByteArray}

/-! ### Putting something at a location -/

def replaced (location : Location) (entry : FileEntry) (e : Location × FileEntry) :
    Location × FileEntry :=
  if e.1 == location then (location, entry) else e

theorem lookup_replaced_of_ne (entries : List (Location × FileEntry)) {place : Location}
    (h : place ≠ location) :
    (entries.map (replaced location entry)).lookup place = entries.lookup place := by
  induction entries with
  | nil => rfl
  | cons head entries ih =>
    rcases head with ⟨key, old⟩
    by_cases same : key = location
    · subst same
      simp [replaced, List.lookup_cons, ih, beq_false_of_ne h]
    · simp [replaced, List.lookup_cons, ih, same]

theorem lookup_replaced_self (entries : List (Location × FileEntry))
    (there : (entries.any fun e => e.1 == location) = true) :
    (entries.map (replaced location entry)).lookup location = some entry := by
  induction entries with
  | nil => cases there
  | cons head entries ih =>
    rcases head with ⟨key, old⟩
    by_cases same : key = location
    · simp [replaced, same]
    · rw [List.any_cons, beq_false_of_ne same, Bool.false_or] at there
      simp [replaced, List.lookup_cons, ih there, same, beq_false_of_ne (Ne.symm same)]

theorem lookup_put (tree : FileTree) (location place : Location) (entry : FileEntry) :
    (tree.put location entry).entries.lookup place =
      if place = location then some entry else tree.entries.lookup place := by
  rw [put]
  split
  · rename_i there
    change (tree.entries.map (replaced location entry)).lookup place = _
    by_cases same : place = location
    · rw [same, lookup_replaced_self _ there, if_pos rfl]
    · rw [lookup_replaced_of_ne _ same, if_neg same]
  · rename_i absent
    rw [List.lookup_append]
    by_cases same : place = location
    · have none : tree.entries.lookup location = none := by
        rw [List.lookup_eq_none_iff]
        intro e there
        rw [bne_iff_ne]
        rintro rfl
        exact absent (List.any_eq_true.mpr ⟨e, there, BEq.rfl⟩)
      rw [same, none, if_pos rfl]
      simp
    · rw [if_neg same]
      simp [List.lookup_cons, beq_false_of_ne same]

theorem put_workingDirectory (tree : FileTree) (location : Location) (entry : FileEntry) :
    (tree.put location entry).workingDirectory = tree.workingDirectory := by
  rw [put]
  split <;> rfl

/-- What is put where no directory is comes to its location, and nothing else changes. -/
theorem entryAt?_put (free : tree.entryAt? location ≠ some .directory) (place : Location) :
    (tree.put location entry).entryAt? place =
      if place = location then some entry else tree.entryAt? place := by
  rw [entryAt?, entryAt?, put_workingDirectory, lookup_put]
  by_cases fixed : (decide (place = []) || decide (place = tree.workingDirectory)) = true
  · have other : place ≠ location := by
      rintro rfl
      exact free (if_pos fixed)
    rw [if_pos fixed, if_neg other, if_pos fixed]
  · rw [if_neg fixed, if_neg fixed]

theorem keeps_put (free : tree.entryAt? location ≠ some .directory) (entry : FileEntry) :
    tree.Keeps (tree.put location entry) where
  workingDirectory := put_workingDirectory tree location entry
  directory := by
    intro place there
    rw [entryAt?_put free, if_neg, there]
    rintro rfl
    exact free there

/-! ### Writing a file -/

theorem write_join (named : FileName name.toList)
    (written : tree.write (dir.join name) content = some other) :
    Fits dir name ∧ ∃ base, tree.Leads dir base ∧
      tree.entryAt? (base ++ [name]) ≠ some .directory ∧
      other = tree.put (base ++ [name]) (.file content) := by
  rw [write] at written
  split at written
  · rename_i place content' located
    have taken := checkPath_of_locate located
    rw [locate_join tree dir named taken] at located
    obtain ⟨base, leads, last⟩ := exists_follow_of_concat named located
    obtain ⟨short, ⟨entry, there, same⟩ | ⟨-, absent⟩⟩ := follow_fileName_ok named last
    · cases same
      cases written
      exact ⟨⟨taken, short⟩, base, leads, by rw [there]; simp, rfl⟩
    · cases absent
  · rename_i parent name' located
    have taken := checkPath_of_locate located
    rw [locate_join tree dir named taken] at located
    obtain ⟨base, leads, last⟩ := exists_follow_of_concat named located
    obtain ⟨short, ⟨entry, -, there⟩ | ⟨free, same⟩⟩ := follow_fileName_ok named last
    · cases there
    · cases same
      cases written
      exact ⟨⟨taken, short⟩, _, leads, by rw [free]; simp, rfl⟩
  · cases written

/-! ### Making directories -/

/-- A directory that is missing is made before the rest of the way is. -/
theorem makeAlong_cons {piece : List Char} {rest : List (List Char)}
    (h : tree.makeAlong location (piece :: rest) = some made) :
    ∃ next, next? location piece = some next ∧
      (tree.makeAlong next rest = some made ∨
        tree.entryAt? next = none ∧
          (tree.put next .directory).makeAlong next rest = some made) := by
  rw [makeAlong] at h
  rw [next?]
  split at h
  · rename_i void
    exact ⟨location, if_pos void, Or.inl h⟩
  · rename_i some
    rw [if_neg some]
    split at h
    · rename_i parent
      exact ⟨location.dropLast, if_pos parent, Or.inl h⟩
    · rename_i inside
      rw [if_neg inside]
      dsimp only at h
      split at h
      · cases h
      · rename_i short
        refine ⟨_, if_neg short, ?_⟩
        split at h
        · exact Or.inl h
        · cases h
        · rename_i absent
          split at h
          · cases h
          · exact Or.inr ⟨absent, h⟩

theorem entryAt?_makeAlong {pieces : List (List Char)}
    (h : tree.makeAlong location pieces = some made) (place : Location) :
    made.entryAt? place = tree.entryAt? place ∨
      tree.entryAt? place = none ∧ made.entryAt? place = some .directory := by
  induction pieces generalizing tree location with
  | nil =>
    cases h
    exact Or.inl rfl
  | cons piece pieces ih =>
    obtain ⟨next, -, there | ⟨absent, new⟩⟩ := makeAlong_cons h
    · exact ih there
    · have later := ih new
      rw [entryAt?_put (by rw [absent]; simp)] at later
      by_cases same : place = next
      · rw [if_pos same] at later
        exact Or.inr ⟨same ▸ absent, later.elim id And.right⟩
      · rwa [if_neg same] at later

theorem entryAt?_makeDirectories {path : Path} {made : FileTree}
    (h : tree.makeDirectories path = some made) (place : Location) :
    made.entryAt? place = tree.entryAt? place ∨
      tree.entryAt? place = none ∧ made.entryAt? place = some .directory := by
  rw [makeDirectories] at h
  split at h
  · cases h
    exact Or.inl rfl
  · split at h
    · cases h
    · exact entryAt?_makeAlong h place

theorem checkPath_of_makeDirectories {path : Path} {made : FileTree}
    (h : tree.makeDirectories path = some made) (some : path.text.isEmpty = false) :
    checkPath path = .ok () := by
  rw [makeDirectories, if_neg (by rw [some]; exact Bool.false_ne_true)] at h
  split at h
  · cases h
  · rename_i taken
    exact taken

/-! ### Trees stay proper -/

theorem Named.proper (named : Named location) : (FileTree.mk location []).Proper where
  workingDirectory := named
  names _ there := absurd there List.not_mem_nil
  distinct := List.nodup_nil

theorem Proper.put (proper : tree.Proper) (named : Named location) (entry : FileEntry) :
    (tree.put location entry).Proper := by
  rw [FileTree.put]
  split
  · have places : (tree.entries.map (replaced location entry)).map Prod.fst =
        tree.entries.map Prod.fst := by
      rw [List.map_map]
      apply List.map_congr_left
      intro e _
      rw [Function.comp_apply, replaced]
      split
      · exact (eq_of_beq ‹_›).symm
      · rfl
    refine ⟨proper.workingDirectory, fun e there => ?_, ?_⟩
    · obtain ⟨old, mem, rfl⟩ := List.mem_map.mp there
      split
      · exact named
      · exact proper.names old mem
    · exact places ▸ proper.distinct
  · rename_i absent
    refine ⟨proper.workingDirectory, fun e there => ?_, ?_⟩
    · rcases List.mem_append.mp there with there | there
      · exact proper.names e there
      · rw [List.mem_singleton.mp there]
        exact named
    · rw [List.map_append, List.map_singleton]
      apply List.nodup_append.mpr
      refine ⟨proper.distinct, List.nodup_singleton _, ?_⟩
      rintro place there _ new rfl
      obtain ⟨e, mem, rfl⟩ := List.mem_map.mp there
      exact absent (List.any_eq_true.mpr ⟨e, mem, by simpa using new⟩)

theorem Named.next {piece : List Char} {next : Location} (named : Named location)
    (unbroken : '/' ∉ piece) (step : next? location piece = some next) : Named next := by
  rw [next?] at step
  split at step
  · cases step
    exact named
  · rename_i some
    split at step
    · cases step
      exact fun name there => named name (List.dropLast_subset _ there)
    · rename_i not_parent
      split at step
      · cases step
      · cases step
        intro name there
        rcases List.mem_append.mp there with there | there
        · exact named name there
        · rw [List.mem_singleton.mp there, String.toList_ofList]
          simp only [Bool.or_eq_true, List.isEmpty_iff, beq_iff_eq, not_or] at some not_parent
          exact ⟨some.1, unbroken, some.2, not_parent⟩

def locationOf : Place → Location
  | .existing location _ => location
  | .absent parent name _ => parent ++ [name]

/-- Every location to which pieces lead is named by file names. -/
theorem Named.follow {pieces : List (List Char)} {place : Place} (named : Named location)
    (unbroken : ∀ piece ∈ pieces, '/' ∉ piece) (h : tree.follow location pieces = .ok place) :
    Named (locationOf place) := by
  induction pieces generalizing location with
  | nil =>
    rw [FileTree.follow] at h
    split at h
    · cases h
      exact named
    · cases h
  | cons piece pieces ih =>
    obtain ⟨piece_unbroken, unbroken⟩ := List.forall_mem_cons.mp unbroken
    obtain ⟨-, next, step, later | ⟨-, -, rfl, rfl⟩⟩ := follow_cons_ok h
    · exact ih (named.next piece_unbroken step) unbroken later
    · exact named.next piece_unbroken step

theorem Proper.startOf (proper : tree.Proper) (s : List Char) : Named (tree.startOf s) := by
  rw [FileTree.startOf]
  split
  · exact fun name there => absurd there List.not_mem_nil
  · exact proper.workingDirectory

theorem Proper.locate (proper : tree.Proper) {place : Place}
    (h : tree.locate path = .ok place) : Named (locationOf place) := by
  obtain ⟨_, -, h⟩ := bind_eq_ok_iff.mp h
  exact (proper.startOf _).follow (fun piece => Path.unbroken_of_mem_pieces) h

theorem Proper.write (proper : tree.Proper) (written : tree.write path content = some other) :
    other.Proper := by
  rw [FileTree.write] at written
  split at written
  · rename_i located
    cases written
    exact proper.put (proper.locate located) _
  · rename_i located
    cases written
    exact proper.put (proper.locate located) _
  · cases written

theorem Proper.makeAlong {pieces : List (List Char)} (proper : tree.Proper)
    (named : Named location) (unbroken : ∀ piece ∈ pieces, '/' ∉ piece)
    (h : tree.makeAlong location pieces = some made) : made.Proper := by
  induction pieces generalizing tree location with
  | nil =>
    cases h
    exact proper
  | cons piece pieces ih =>
    obtain ⟨piece_unbroken, unbroken⟩ := List.forall_mem_cons.mp unbroken
    obtain ⟨next, step, there | ⟨-, new⟩⟩ := makeAlong_cons h
    · exact ih proper (named.next piece_unbroken step) unbroken there
    · have named := named.next piece_unbroken step
      exact ih (proper.put named _) named unbroken new

theorem Proper.makeDirectories (proper : tree.Proper)
    (h : tree.makeDirectories path = some made) : made.Proper := by
  rw [FileTree.makeDirectories] at h
  split at h
  · cases h
    exact proper
  · split at h
    · cases h
    · exact proper.makeAlong (proper.startOf _) (fun piece => Path.unbroken_of_mem_pieces) h

/-! ### Several files -/

def putAll (tree : FileTree) (files : List (Location × ByteArray)) : FileTree :=
  files.foldl (fun tree file => tree.put file.1 (.file file.2)) tree

/-- No file is to be put where a directory is. -/
def Free (tree : FileTree) (files : List (Location × ByteArray)) : Prop :=
  ∀ file ∈ files, tree.entryAt? file.1 ≠ some .directory

variable {files : List (Location × ByteArray)} {file : Location × ByteArray}

/-- What is free after a file has been put somewhere was free before. -/
theorem Free.cons (free : tree.entryAt? file.1 ≠ some .directory)
    (later : (tree.put file.1 (.file file.2)).Free files) : tree.Free (file :: files) := by
  intro place there
  rcases List.mem_cons.mp there with rfl | there
  · exact free
  · exact fun old => later place there ((keeps_put free _).directory _ old)

theorem Free.tail (free : tree.Free (file :: files)) :
    (tree.put file.1 (.file file.2)).Free files := by
  intro later there
  rw [entryAt?_put (free file List.mem_cons_self)]
  split
  · simp
  · exact free later (List.mem_cons_of_mem _ there)

theorem Free.keeps (free : tree.Free files) : tree.Keeps (tree.putAll files) := by
  induction files generalizing tree with
  | nil => exact ⟨rfl, fun _ there => there⟩
  | cons file files ih =>
    have first := keeps_put (free file List.mem_cons_self) (.file file.2)
    have later := ih free.tail
    exact ⟨later.workingDirectory.trans first.workingDirectory,
      fun place there => later.directory place (first.directory place there)⟩

theorem Free.entryAt?_of_not_mem (free : tree.Free files) (h : location ∉ files.map Prod.fst) :
    (tree.putAll files).entryAt? location = tree.entryAt? location := by
  induction files generalizing tree with
  | nil => rfl
  | cons file files ih =>
    rw [List.map_cons, List.mem_cons, not_or] at h
    change ((tree.put file.1 (.file file.2)).putAll files).entryAt? location = _
    rw [ih free.tail h.2, entryAt?_put (free file List.mem_cons_self), if_neg h.1]

theorem Free.entryAt?_of_mem (free : tree.Free files) (distinct : (files.map Prod.fst).Nodup)
    (there : file ∈ files) : (tree.putAll files).entryAt? file.1 = some (.file file.2) := by
  induction files generalizing tree with
  | nil => cases there
  | cons first files ih =>
    obtain ⟨new, distinct⟩ := List.nodup_cons.mp distinct
    change ((tree.put first.1 (.file first.2)).putAll files).entryAt? file.1 = _
    rcases List.mem_cons.mp there with rfl | there
    · rw [free.tail.entryAt?_of_not_mem new, entryAt?_put (free file List.mem_cons_self),
        if_pos rfl]
    · exact ih free.tail distinct there

end TemplateSite.FileTree
