import TemplateSite.Proofs.Files.Stem
import TemplateSite.Proofs.Files.Writing
import TemplateSite.Proofs.Site.Isolation

/-!
# Every page has a file of its own

A page is written to the file with its stem below the output directory if its stem is plain. Then
different pages never come to the same file, nothing is written anywhere else, and the pages are
counted as they are. A stem with an extension of its own loses it, so that two pages can come to the
same file; a stem that is a single dot comes to a file beside the output directory.
-/
namespace TemplateSite.Site

/-! ### Names of pages -/

/-- What can be asked for as the extension of pages: a dot and something without dots and
slashes. -/
structure IsExtension (s : List Char) : Prop where
  dot : s.head? = some '.'
  some : s.tail ≠ []
  undotted : '.' ∉ s.tail
  unbroken : '/' ∉ s.tail

def stem (page : Path) : String :=
  String.ofList (fileStem (lastName page))

/-- The file name that a page should be written to. -/
def fileName (page : Path) : String :=
  stem page ++ ".html"

variable {options : Options} {partials : Source} {tree files made after : FileTree}
  {dir out page : Path} {paths : List Path} {site : Site} {count : Nat}

theorem lastName_join {name : String} (unbroken : '/' ∉ name.toList) :
    lastName (dir.join name) = name.toList := by
  rw [lastName, Path.pieces_join dir unbroken, List.getLast?_concat]
  rfl

theorem eq_join_stem {extname : String} (extension : IsExtension extname.toList)
    (proper : tree.Proper) (found : discover tree dir extname = .ok paths) (there : page ∈ paths)
    (rest : page ≠ dir.join extname) :
    page = dir.join (stem page ++ extname) ∧ stem page ≠ "" ∧ '/' ∉ (stem page).toList := by
  obtain ⟨names, rfl, -, named⟩ := exists_names_of_discover proper found
  obtain ⟨name, mem, rfl⟩ := List.mem_map.mp there
  obtain ⟨named, before, split⟩ := named name mem
  have nonempty : before ≠ [] := by
    rintro rfl
    exact rest (congrArg dir.join (String.toList_inj.mp split.symm))
  have dotted : extname.toList = '.' :: extname.toList.tail :=
    List.eq_cons_of_mem_head? extension.dot
  have stemmed : stem (dir.join name) = String.ofList before := by
    have not_parent : before ++ '.' :: extname.toList.tail ≠ ['.', '.'] := by
      rw [← dotted, split]
      exact named.not_parent
    rw [stem, lastName_join named.unbroken, ← split, dotted,
      fileStem_append extension.undotted nonempty not_parent]
  have unbroken : '/' ∉ before := fun slash =>
    named.unbroken (split ▸ List.mem_append_left _ slash)
  rw [stemmed]
  refine ⟨congrArg dir.join (String.toList_inj.mp ?_), ?_, ?_⟩
  · simp [split]
  · simpa using nonempty
  · simpa using unbroken

/-- A page comes to the file with its stem exactly if its stem is plain. -/
theorem target_eq_iff (nonempty : stem page ≠ "") (unbroken : '/' ∉ (stem page).toList) :
    target out page = out.join (fileName page) ↔ PlainStem (stem page).toList := by
  have same : stem page ++ "." ++ "html" = fileName page := by
    rw [fileName, String.append_assoc]
    rfl
  rw [← same]
  exact out.withExtension_join_eq_iff nonempty unbroken (by decide)

theorem fileName_of_plain (plain : PlainStem (stem page).toList) :
    FileName (fileName page).toList := by
  have extended : (fileName page).toList = (stem page).toList ++ ".html".toList :=
    String.toList_append
  rw [extended]
  refine ⟨?_, ?_, ?_, ?_⟩
  · simp
  · simp [plain.unbroken]
  · intro here
    have shorter := congrArg List.length here
    simp at shorter
  · intro parent
    have shorter := congrArg List.length parent
    simp at shorter

/-! ### Writing them -/

/-- The pages that were built, with what they hold. -/
def outputs (pages : List Page) : List (Path × String) :=
  pages.filterMap fun page => page.result.toOption.map fun html => (page.path, html)

/-- The pages that were built come to files with their stems. -/
def Placed (out : Path) (pages : List Page) : Prop :=
  ∀ output ∈ outputs pages, target out output.1 = out.join (fileName output.1) ∧
    FileName (fileName output.1).toList

/-- Where the pages that were built belong, and what belongs there. -/
def filesIn (base : Location) (pages : List Page) : List (Location × ByteArray) :=
  (outputs pages).map fun output => (base ++ [fileName output.1], output.2.toUTF8)

theorem outputs_cons_of_ok {page : Page} {html : String} (h : page.result = .ok html)
    (pages : List Page) : outputs (page :: pages) = (page.path, html) :: outputs pages := by
  simp [outputs, h, Except.toOption]

theorem outputs_cons_of_error {page : Page} {fault : PageFault} (h : page.result = .error fault)
    (pages : List Page) : outputs (page :: pages) = outputs pages := by
  simp [outputs, h, Except.toOption]

section Equations

-- Whether a path is taken is not to be found out by unfolding.
attribute [local irreducible] FileTree.checkPath

theorem writeAll_cons_of_error (out : Path) (files : FileTree) {page : Page} {fault : PageFault}
    (h : page.result = .error fault) (pages : List Page) :
    writeAll out files (page :: pages) = writeAll out files pages := by
  rcases page with ⟨path, result⟩
  subst h
  rfl

theorem writeAll_cons_of_ok (out : Path) (files : FileTree) {page : Page} {html : String}
    (h : page.result = .ok html) (pages : List Page) :
    writeAll out files (page :: pages) =
      match files.write (target out page.path) html.toUTF8 with
      | none => (.error (.unwritable (target out page.path)), files)
      | some files =>
        ((writeAll out files pages).1.map (· + 1), (writeAll out files pages).2) := by
  rcases page with ⟨path, result⟩
  subst h
  rfl

end Equations

/-- Writing pages that come to files with their stems puts them all into the directory. -/
theorem writeAll_eq_putAll {pages : List Page} {base : Location} (placed : Placed out pages)
    (leads : outputs pages ≠ [] → files.Leads out base)
    (written : writeAll out files pages = (.ok count, after)) :
    count = (outputs pages).length ∧ files.Free (filesIn base pages) ∧
      after = files.putAll (filesIn base pages) ∧
      ∀ output ∈ outputs pages, FileTree.Fits out (fileName output.1) := by
  induction pages generalizing files count with
  | nil =>
    cases written
    refine ⟨rfl, ?_, rfl, ?_⟩
    · intro file there
      cases there
    · intro output there
      cases there
  | cons page pages ih =>
    cases result : page.result with
    | error fault =>
      rw [writeAll_cons_of_error out files result] at written
      rw [Placed, outputs_cons_of_error result] at placed
      rw [outputs_cons_of_error result] at leads ⊢
      rw [filesIn, outputs_cons_of_error result]
      exact ih placed leads written
    | ok html =>
      rw [writeAll_cons_of_ok out files result] at written
      rw [Placed, outputs_cons_of_ok result] at placed
      rw [outputs_cons_of_ok result] at leads ⊢
      rw [filesIn, outputs_cons_of_ok result, List.map_cons]
      have leads := leads (List.cons_ne_nil _ _)
      obtain ⟨first, placed⟩ := List.forall_mem_cons.mp placed
      split at written
      · cases written
      · rename_i files' one
        rw [first.1] at one
        obtain ⟨fits, place, leads', free, rfl⟩ := FileTree.write_join first.2 one
        obtain rfl := leads.unique leads'
        have keeps := FileTree.keeps_put free (.file html.toUTF8)
        obtain ⟨counts, rfl⟩ := Prod.mk.inj written
        obtain ⟨more, counted, rfl⟩ := map_eq_ok_iff.mp counts
        obtain ⟨rfl, later, put, fit⟩ := ih placed (fun _ => keeps.leads leads)
          (Prod.ext counted rfl)
        exact ⟨rfl, .cons free later, put, List.forall_mem_cons.mpr ⟨fits, fit⟩⟩

theorem exists_leads_of_writeAll {pages : List Page} (placed : Placed out pages)
    (some : outputs pages ≠ []) (written : writeAll out files pages = (.ok count, after)) :
    ∃ base, files.Leads out base := by
  induction pages with
  | nil => exact absurd rfl some
  | cons page pages ih =>
    cases result : page.result with
    | error fault =>
      rw [writeAll_cons_of_error out files result] at written
      rw [Placed, outputs_cons_of_error result] at placed
      rw [outputs_cons_of_error result] at some
      exact ih placed some written
    | ok html =>
      rw [writeAll_cons_of_ok out files result] at written
      rw [Placed, outputs_cons_of_ok result] at placed
      obtain ⟨first, -⟩ := List.forall_mem_cons.mp placed
      split at written
      · cases written
      · rename_i files' one
        rw [first.1] at one
        obtain ⟨-, base, leads, -⟩ := FileTree.write_join first.2 one
        exact ⟨base, leads⟩

theorem output_eq_some_iff {page : Page} {output : Path × String} :
    (page.result.toOption.map fun html => (page.path, html)) = some output ↔
      page.path = output.1 ∧ page.result = .ok output.2 := by
  rcases page with ⟨path, fault | html⟩ <;> rcases output with ⟨path', html'⟩ <;>
    simp [Except.toOption]

theorem mem_outputs {pages : List Page} {output : Path × String} :
    output ∈ outputs pages ↔ ∃ page ∈ pages, page.path = output.1 ∧ page.result = .ok output.2 := by
  simp only [outputs, List.mem_filterMap, output_eq_some_iff]

theorem outputs_distinct {pages : List Page} (distinct : (pages.map Page.path).Nodup) :
    (outputs pages).Pairwise fun a b => a.1 ≠ b.1 := by
  apply List.Pairwise.filterMap _ _ (List.pairwise_map.mp distinct)
  intro page page' apart output its output' its'
  rw [← (output_eq_some_iff.mp its).1, ← (output_eq_some_iff.mp its').1]
  exact apart

/-- Pages with different paths belong to different locations. -/
theorem locations_distinct {pages : List Page} {extname : String} (base : Location)
    (distinct : (pages.map Page.path).Nodup)
    (named : ∀ output ∈ outputs pages, output.1 = dir.join (stem output.1 ++ extname)) :
    ((outputs pages).map fun output => base ++ [fileName output.1]).Nodup := by
  apply List.pairwise_map.mpr
  apply (outputs_distinct distinct).imp_of_mem
  intro a b ha hb apart same
  apply apart
  have same : fileName a.1 = fileName b.1 := (List.cons.inj (List.append_cancel_left same)).1
  rw [named a ha, named b hb, (String.append_left_inj ".html").mp same]

/-- What writing a site does, if no page fails to be written. -/
theorem exists_made_of_write (written : site.write out files = (.ok count, after)) :
    ∃ made, files.makeDirectories out = some made ∧
      writeAll out made site.pages = (.ok count, after) := by
  rw [write] at written
  split at written
  · cases written
  · exact ⟨_, ‹_›, written⟩

/-- What has changed when all pages are written that come to files with their stems. -/
theorem exists_base_of_write (placed : Placed out site.pages)
    (distinct : ∀ base : Location,
      ((outputs site.pages).map fun output => base ++ [fileName output.1]).Nodup)
    (written : site.write out files = (.ok count, after)) :
    ∃ made base, files.makeDirectories out = some made ∧
      (∀ output ∈ outputs site.pages, made.directoryAt? out = some base ∧
        after.locate (target out output.1) =
          .ok (.existing (base ++ [fileName output.1]) (.file output.2.toUTF8))) ∧
      (∀ location,
        location ∉ (outputs site.pages).map (fun output => base ++ [fileName output.1]) →
        after.entryAt? location = made.entryAt? location) ∧
      ((outputs site.pages).map fun output => base ++ [fileName output.1]).Nodup ∧
      count = (outputs site.pages).length := by
  obtain ⟨made, makes, writes⟩ := exists_made_of_write written
  obtain ⟨base, leads⟩ : ∃ base, outputs site.pages ≠ [] → made.Leads out base := by
    by_cases nothing : outputs site.pages = []
    · exact ⟨[], fun some => absurd nothing some⟩
    · obtain ⟨base, leads⟩ := exists_leads_of_writeAll placed nothing writes
      exact ⟨base, fun _ => leads⟩
  obtain ⟨counted, free, rfl, fits⟩ := writeAll_eq_putAll placed leads writes
  have locations : (filesIn base site.pages).map Prod.fst =
      (outputs site.pages).map fun output => base ++ [fileName output.1] := by
    rw [filesIn, List.map_map]
    rfl
  refine ⟨made, base, makes, ?_, ?_, distinct base, counted⟩
  · intro output there
    have leads := leads (List.ne_nil_of_mem there)
    refine ⟨leads.directoryAt? (FileTree.checkPath_of_makeDirectories makes), ?_⟩
    rw [(placed output there).1]
    apply FileTree.locate_of_leads (free.keeps.leads leads) (placed output there).2
      (fits output there)
    exact free.entryAt?_of_mem (locations ▸ distinct base) (List.mem_map_of_mem there)
  · intro location elsewhere
    apply free.entryAt?_of_not_mem
    rw [locations]
    exact elsewhere

/-- Each page that is written has a file of its own below the output directory, with its stem, and
nothing else is written, as long as all stems are plain. -/
theorem pages_written (extension : IsExtension options.extname.toList) (proper : tree.Proper)
    (built : buildFrom options partials tree dir = .ok site)
    (rest : ∀ page ∈ site.pages, page.path ≠ dir.join options.extname)
    (written : site.write out files = (.ok count, after)) :
    (∀ output ∈ outputs site.pages,
      output.1 = dir.join (stem output.1 ++ options.extname) ∧
      (target out output.1 = out.join (stem output.1 ++ ".html") ↔
        PlainStem (stem output.1).toList)) ∧
    ((∀ output ∈ outputs site.pages, PlainStem (stem output.1).toList) →
      ∃ made base, files.makeDirectories out = some made ∧
        (∀ output ∈ outputs site.pages, made.directoryAt? out = some base ∧
          after.locate (target out output.1) =
            .ok (.existing (base ++ [stem output.1 ++ ".html"]) (.file output.2.toUTF8))) ∧
        (∀ location,
          location ∉ (outputs site.pages).map (fun output => base ++ [stem output.1 ++ ".html"]) →
          after.entryAt? location = made.entryAt? location) ∧
        (∀ location, made.entryAt? location = files.entryAt? location ∨
          files.entryAt? location = none ∧ made.entryAt? location = some .directory) ∧
        ((outputs site.pages).map fun output => base ++ [stem output.1 ++ ".html"]).Nodup ∧
        count = (outputs site.pages).length) := by
  obtain ⟨paths, found⟩ := exists_discover_of_buildFrom built
  have paths_eq := map_path_of_buildFrom found built
  have named : ∀ output ∈ outputs site.pages,
      output.1 = dir.join (stem output.1 ++ options.extname) ∧ stem output.1 ≠ "" ∧
        '/' ∉ (stem output.1).toList := by
    intro output there
    obtain ⟨page, mem, same, -⟩ := mem_outputs.mp there
    rw [← same]
    exact eq_join_stem extension proper found (paths_eq ▸ List.mem_map_of_mem mem) (rest page mem)
  refine ⟨fun output there => ?_, fun plain => ?_⟩
  · obtain ⟨whole, nonempty, unbroken⟩ := named output there
    exact ⟨whole, target_eq_iff nonempty unbroken⟩
  · have placed : Placed out site.pages := by
      intro output there
      obtain ⟨-, nonempty, unbroken⟩ := named output there
      exact ⟨(target_eq_iff nonempty unbroken).mpr (plain output there),
        fileName_of_plain (plain output there)⟩
    have ascending := discover_ascending proper found
    have distinct := fun base => locations_distinct base
      (paths_eq ▸ Progress.nodup_of_ascending ascending) fun output there => (named output there).1
    obtain ⟨made, base, makes, there, elsewhere, apart, counted⟩ :=
      exists_base_of_write placed distinct written
    exact ⟨made, base, makes, there, elsewhere, FileTree.entryAt?_makeDirectories makes, apart,
      counted⟩

/-- A page with a hidden name and one beside a page that does not compile: both are written. -/
theorem pages_written_of_hidden :
    let tree : FileTree := ⟨[], [(["pages"], .directory),
      (["pages", ".b.liquid"], .file "2".toUTF8),
      (["pages", "a.liquid"], .file "1".toUTF8),
      (["pages", "c.liquid"], .file "\x7b% if".toUTF8)]⟩
    ∃ site after, buildFrom .usual Library.empty.read tree ⟨"pages"⟩ = .ok site ∧
      site.write ⟨"dist"⟩ tree = (.ok 2, after) ∧
      (outputs site.pages).map (fun output => target ⟨"dist"⟩ output.1) =
        [⟨"dist/.b.html"⟩, ⟨"dist/a.html"⟩] ∧
      ∃ base, ∀ output ∈ outputs site.pages, after.locate (target ⟨"dist"⟩ output.1) =
        .ok (.existing (base ++ [stem output.1 ++ ".html"]) (.file output.2.toUTF8)) := by
  intro tree
  let paths : List Path := [⟨"pages/.b.liquid"⟩, ⟨"pages/a.liquid"⟩, ⟨"pages/c.liquid"⟩]
  have proper : tree.Proper := ⟨by decide, by decide, by decide⟩
  have found : discover tree ⟨"pages"⟩ ".liquid" = .ok paths := by
    rw [@discover_of_sorted tree _ _ ["pages"] rfl (by decide +kernel)]
    decide +kernel
  have evaluated : (buildAll .usual Library.empty.read tree .empty paths).any fun site =>
      decide ((site.write ⟨"dist"⟩ tree).1 = .ok 2) &&
        decide ((outputs site.pages).map (fun output => target ⟨"dist"⟩ output.1) =
          [⟨"dist/.b.html"⟩, ⟨"dist/a.html"⟩]) &&
        (outputs site.pages).all fun output => decide (PlainStem (stem output.1).toList) := by
    decide +kernel
  obtain ⟨site, built, facts⟩ := (Option.any_eq_true _ _).mp evaluated
  simp only [Bool.and_eq_true, List.all_eq_true, decide_eq_true_eq] at facts
  obtain ⟨⟨counted, targets⟩, plain⟩ := facts
  have built : buildFrom .usual Library.empty.read tree ⟨"pages"⟩ = .ok site :=
    (buildFrom_of_discover found).trans (by rw [built, Option.elim_some])
  have written : site.write ⟨"dist"⟩ tree = (.ok 2, (site.write ⟨"dist"⟩ tree).2) :=
    Prod.ext counted rfl
  have rest : ∀ page ∈ site.pages, page.path ≠ Path.join ⟨"pages"⟩ ".liquid" := by
    intro page there
    have mem : page.path ∈ paths := map_path_of_buildFrom found built ▸ List.mem_map_of_mem there
    revert mem
    generalize page.path = path
    revert path
    decide
  obtain ⟨-, all⟩ := pages_written ⟨rfl, by decide, by decide, by decide⟩ proper built rest written
  obtain ⟨made, base, -, there, -⟩ := all plain
  exact ⟨site, _, built, written, targets, base, fun output mem => (there output mem).2⟩

/-- Two pages come to the same file, and both are counted. -/
theorem pages_written_to_one_file :
    let tree : FileTree := ⟨[], [(["pages"], .directory),
      (["pages", "x.liquid"], .file "1".toUTF8), (["pages", "x.y.liquid"], .file "2".toUTF8)]⟩
    ∃ site after, buildFrom .usual Library.empty.read tree ⟨"pages"⟩ = .ok site ∧
      site.write ⟨"dist"⟩ tree = (.ok 2, after) ∧
      (outputs site.pages).map (fun output => target ⟨"dist"⟩ output.1) =
        [⟨"dist/x.html"⟩, ⟨"dist/x.html"⟩] := by
  intro tree
  let paths : List Path := [⟨"pages/x.liquid"⟩, ⟨"pages/x.y.liquid"⟩]
  have found : discover tree ⟨"pages"⟩ ".liquid" = .ok paths := by
    rw [@discover_of_sorted tree _ _ ["pages"] rfl (by decide +kernel)]
    decide +kernel
  have evaluated : (buildAll .usual Library.empty.read tree .empty paths).any fun site =>
      decide ((site.write ⟨"dist"⟩ tree).1 = .ok 2) &&
        decide ((outputs site.pages).map (fun output => target ⟨"dist"⟩ output.1) =
          [⟨"dist/x.html"⟩, ⟨"dist/x.html"⟩]) := by
    decide +kernel
  obtain ⟨site, built, facts⟩ := (Option.any_eq_true _ _).mp evaluated
  simp only [Bool.and_eq_true, decide_eq_true_eq] at facts
  obtain ⟨counted, targets⟩ := facts
  have built : buildFrom .usual Library.empty.read tree ⟨"pages"⟩ = .ok site :=
    (buildFrom_of_discover found).trans (by rw [built, Option.elim_some])
  exact ⟨site, (site.write ⟨"dist"⟩ tree).2, built, Prod.ext counted rfl, targets⟩

end TemplateSite.Site
