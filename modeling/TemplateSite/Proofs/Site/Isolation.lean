import TemplateSite.Proofs.Site.Discovery
import TemplateSite.Proofs.Site.Outcome

/-!
# Pages do not influence each other

What a page comes to and what is recorded for it depend on its own text, the options and the
partials, and on nothing that other pages hold or do. Only a page whose build breaks down stops the
others.
-/
namespace TemplateSite

/-! ### What a page comes to -/

namespace Task

variable {options : Options} {partials : Source} {tree other : FileTree} {path : Path} {page : Page}

theorem start_congr (same : tree.read path = other.read path) :
    start options partials tree path = start options partials other path := by
  rw [start, start, same]

theorem ending_of_unreadable {fault : ReadFault} (unread : tree.read path = .error fault) :
    (start options partials tree path).ending = some ⟨path, .error (.unreadable path)⟩ := by
  rw [start, unread]

theorem ending_of_read {text : String} (found : tree.read path = .ok text) (state : BuildState) :
    (start options partials tree path).ending =
      pageOf path ((BuildSetup.mk options partials).load text state).1 := by
  rw [start, found, BuildSetup.load_result_congr _ text state (alone path)]

theorem isSome_pageOf {result : Except (Failure LoadFault) String} :
    (pageOf path result).isSome = true ↔ result ≠ .error .breakdown := by
  rcases result with (fault | _) | s <;> simp [pageOf]

theorem isSome_ending_iff :
    (start options partials tree path).ending.isSome = true ↔
      ∀ text state, tree.read path = .ok text →
        ((BuildSetup.mk options partials).load text state).1 ≠ .error .breakdown := by
  cases found : tree.read path with
  | error fault => simp [ending_of_unreadable found]
  | ok text =>
    constructor
    · intro works _ state same
      cases same
      rwa [ending_of_read found state, isSome_pageOf] at works
    · intro works
      rw [ending_of_read found (alone path), isSome_pageOf]
      exact works text (alone path) rfl

theorem recorded_of_unreadable {fault : ReadFault} (unread : tree.read path = .error fault) :
    let left := ((start options partials tree path).after .empty).registry
    left.dependencies path.text = [] ∧ left.isCacheable path.text = false := by
  intro left
  have entry : left.entry path.text = (some [], none) := by
    rw [show left = _ from congrArg BuildState.registry (after_of_unreadable unread .empty)]
    exact (Registry.entry_begin .empty _ _).trans (if_pos rfl)
  rw [Registry.dependencies_eq_entry, Registry.isCacheable_eq_entry, entry]
  exact ⟨rfl, rfl⟩

theorem recorded_of_read {text : String} (found : tree.read path = .ok text) :
    let left := ((start options partials tree path).after .empty).registry
    left.dependencies path.text = options.tracked text ∧ left.isCacheable path.text = true := by
  intro left
  have loaded : left = ((BuildSetup.mk options partials).load text (alone path)).2.registry :=
    congrArg BuildState.registry (after_of_read found .empty)
  constructor
  · have begun : (alone path).registry.dependencies path.text = [] :=
      (Registry.dependencies_begin .empty path.text path.text).trans (if_pos rfl)
    rw [loaded, BuildSetup.dependencies_load, begun, List.nil_append]
    exact if_pos rfl
  · rw [loaded, BuildSetup.isCacheable_load]
    exact Or.inr ⟨rfl, rfl⟩

end Task

namespace Site

variable {options : Options} {partials : Source} {tree : FileTree} {dir : Path} {paths : List Path}

theorem buildFrom_of_discover (found : discover tree dir options.extname = .ok paths) :
    buildFrom options partials tree dir =
      (buildAll options partials tree .empty paths).elim (.error .breakdown) .ok := by
  rw [buildFrom, found]
  dsimp only
  cases buildAll options partials tree .empty paths <;> rfl

theorem exists_discover_of_buildFrom {site : Site}
    (built : buildFrom options partials tree dir = .ok site) :
    ∃ paths, discover tree dir options.extname = .ok paths := by
  rw [buildFrom] at built
  split at built
  · cases built
  · exact ⟨_, ‹_›⟩

/-- A site is built exactly when all tasks end with a page. -/
theorem exists_buildFrom_iff (found : discover tree dir options.extname = .ok paths) :
    (∃ site, buildFrom options partials tree dir = .ok site) ↔
      ∀ path ∈ paths, (Task.start options partials tree path).ending.isSome = true := by
  rw [buildFrom_of_discover found, buildAll_eq, ← List.all_eq_true]
  split <;> simp_all

theorem eq_of_buildFrom {site : Site} (found : discover tree dir options.extname = .ok paths)
    (built : buildFrom options partials tree dir = .ok site) :
    site = ⟨paths.filterMap fun path => (Task.start options partials tree path).ending,
      inTurn options partials tree .empty paths⟩ := by
  rw [buildFrom_of_discover found, buildAll_eq] at built
  split at built
  · cases built
    rfl
  · cases built

theorem map_path_of_buildFrom {site : Site}
    (found : discover tree dir options.extname = .ok paths)
    (built : buildFrom options partials tree dir = .ok site) :
    site.pages.map Page.path = paths := by
  have works := (exists_buildFrom_iff found).mp ⟨site, built⟩
  rw [eq_of_buildFrom found built, List.map_filterMap]
  calc
    paths.filterMap (fun path => (Task.start options partials tree path).ending.map Page.path) =
        paths.filterMap some := by
      apply List.filterMap_congr
      intro path there
      obtain ⟨page, ending⟩ := Option.isSome_iff_exists.mp (works path there)
      rw [ending, Option.map_some, Task.path_of_ending ending]
    _ = paths := List.filterMap_some

/-- A page of a site is what its task ends with, and what is recorded for it is what its task
records alone. -/
theorem page_of_buildFrom {site : Site} (proper : tree.Proper)
    (found : discover tree dir options.extname = .ok paths)
    (built : buildFrom options partials tree dir = .ok site) {page : Page}
    (there : page ∈ site.pages) :
    (Task.start options partials tree page.path).ending = some page ∧
      site.registry.entry page.name =
        ((Task.start options partials tree page.path).after .empty).registry.entry page.name := by
  rw [eq_of_buildFrom found built] at there ⊢
  obtain ⟨path, mem, ending⟩ := List.mem_filterMap.mp there
  obtain rfl := Task.path_of_ending ending
  have distinct := Progress.nodup_of_ascending (discover_ascending proper found)
  exact ⟨ending, Progress.entry_inTurn distinct mem⟩

theorem buildFrom_alone {page : Page} (found : discover tree dir options.extname = .ok [page.path])
    (ending : (Task.start options partials tree page.path).ending = some page) :
    buildFrom options partials tree dir =
      .ok ⟨[page], ((Task.start options partials tree page.path).after .empty).registry⟩ := by
  rw [buildFrom_of_discover found, buildAll_eq]
  simp [ending, inTurn]

/-- In whatever order the tasks make their accesses and end, a site comes to an end, and to the
outcome of building its pages one after the other. It is built unless the build of a page breaks
down. Then it has one page for each path, in ascending order; each page is what its own text gives,
what is recorded for it is what its own build records, and both are the same when the page is
alone. -/
theorem pages_isolated (proper : tree.Proper)
    (found : discover tree dir options.extname = .ok paths) :
    (∀ p, Progress.Steps options partials tree (.start paths) p →
      (∃ q, Progress.Steps options partials tree p q ∧ q.Ended) ∧
      (p.Ended → p.report = buildFrom options partials tree dir)) ∧
    ((∃ site, buildFrom options partials tree dir = .ok site) ↔
      ∀ path ∈ paths, ∀ text state, tree.read path = .ok text →
        ((BuildSetup.mk options partials).load text state).1 ≠ .error .breakdown) ∧
    ∀ site, buildFrom options partials tree dir = .ok site →
      site.pages.map Page.path = paths ∧
      paths.Pairwise (fun a b => a.key < b.key) ∧
      ∀ page ∈ site.pages,
        (∀ fault, tree.read page.path = .error fault →
          page.result = .error (.unreadable page.path) ∧
          site.registry.dependencies page.name = [] ∧
          site.registry.isCacheable page.name = false) ∧
        (∀ text, tree.read page.path = .ok text →
          (∀ state, Task.pageOf page.path
            ((BuildSetup.mk options partials).load text state).1 = some page) ∧
          site.registry.dependencies page.name = options.tracked text ∧
          site.registry.isCacheable page.name = true) ∧
        ∀ other otherDir, discover other otherDir options.extname = .ok [page.path] →
          other.read page.path = tree.read page.path →
          ∃ alone, buildFrom options partials other otherDir = .ok alone ∧
            alone.pages = [page] ∧
            alone.registry.dependencies page.name = site.registry.dependencies page.name ∧
            alone.registry.isCacheable page.name = site.registry.isCacheable page.name := by
  have ascending := discover_ascending proper found
  refine ⟨fun p steps => ⟨?_, fun ended => ?_⟩, ?_, fun site built => ⟨?_, ascending, ?_⟩⟩
  · exact Progress.exists_ended options partials tree p
  · rw [buildFrom_of_discover found]
    exact Progress.report_eq_buildAll ascending steps ended
  · rw [exists_buildFrom_iff found]
    exact forall₂_congr fun path _ => Task.isSome_ending_iff
  · exact map_path_of_buildFrom found built
  · intro page there
    obtain ⟨ending, entry⟩ := page_of_buildFrom proper found built there
    simp only [Registry.dependencies_eq_entry, Registry.isCacheable_eq_entry, entry]
    refine ⟨fun fault unread => ⟨?_, Task.recorded_of_unreadable unread⟩,
      fun text read => ⟨fun state => ?_, Task.recorded_of_read read⟩,
      fun other otherDir single same => ?_⟩
    · rw [Task.ending_of_unreadable unread, Option.some.injEq] at ending
      rw [← ending]
    · rw [← Task.ending_of_read read state, ending]
    · rw [← Task.start_congr same] at ending ⊢
      exact ⟨_, buildFrom_alone single ending, rfl, rfl, rfl⟩

/-- A page whose partial is missing and one that is no text fail, and what the one depends on is
recorded; the page beside them is built as if it were alone. -/
theorem pages_isolated_of_failing :
    let options : Options := { Options.usual with dev := true }
    let tree : FileTree := ⟨[], [(["pages"], .directory),
      (["pages", "a.liquid"], .file "\x7b% include \x27x\x27 %\x7d".toUTF8),
      (["pages", "b.liquid"], .file ⟨#[255]⟩),
      (["pages", "c.liquid"], .file "c".toUTF8)]⟩
    let paths : List Path := [⟨"pages/a.liquid"⟩, ⟨"pages/b.liquid"⟩, ⟨"pages/c.liquid"⟩]
    ∃ site, buildFrom options Library.empty.read tree ⟨"pages"⟩ = .ok site ∧
      failures site = 2 ∧ site.pages.map Page.path = paths ∧
      (∀ page ∈ site.pages, page.name = "pages/a.liquid" →
        site.registry.dependencies page.name = [⟨"x.liquid"⟩]) ∧
      ∀ p, Progress.Steps options Library.empty.read tree (.start paths) p → p.Ended →
        p.report = .ok site := by
  intro options tree paths
  have proper : tree.Proper := ⟨by decide, by decide, by decide⟩
  have found : discover tree ⟨"pages"⟩ options.extname = .ok paths := by
    rw [@discover_of_sorted tree _ _ ["pages"] rfl (by decide +kernel)]
    decide +kernel
  have evaluated : (buildAll options Library.empty.read tree .empty paths).any fun site =>
      decide (failures site = 2) := by
    decide +kernel
  obtain ⟨site, built, failing⟩ := (Option.any_eq_true _ _).mp evaluated
  have built : buildFrom options Library.empty.read tree ⟨"pages"⟩ = .ok site := by
    rw [buildFrom_of_discover found, built, Option.elim_some]
  obtain ⟨orders, -, isolated⟩ := @pages_isolated options Library.empty.read _ _ _ proper found
  obtain ⟨all, -, each⟩ := isolated site built
  refine ⟨site, built, of_decide_eq_true failing, all, ?_, ?_⟩
  · intro page there name
    have read : tree.read page.path = .ok "\x7b% include \x27x\x27 %\x7d" := by
      rw [show page.path = ⟨"pages/a.liquid"⟩ from congrArg Path.mk name]
      decide +kernel
    obtain ⟨-, text, -⟩ := each page there
    rw [(text _ read).2.1]
    decide +kernel
  · intro p steps ended
    rw [(orders p steps).2 ended, built]

/-- A page whose source cannot be read to the end of its raw part stops the page beside it, which is
built when it is alone. -/
theorem pages_isolated_breaks_down :
    let page : Location × FileEntry := (["pages", "a.liquid"], .file "a".toUTF8)
    let beside : Location × FileEntry :=
      (["pages", "b.liquid"], .file "\x7b% raw %\x7d\x7b%\x7d".toUTF8)
    let site := fun entries =>
      buildFrom .usual Library.empty.read ⟨[], (["pages"], .directory) :: entries⟩ ⟨"pages"⟩
    (∃ built, site [page] = .ok built) ∧ site [page, beside] = .error .breakdown := by
  intro page beside site
  constructor
  · have found : discover ⟨[], [(["pages"], .directory), page]⟩ ⟨"pages"⟩ ".liquid" =
        .ok [⟨"pages/a.liquid"⟩] := by
      rw [@discover_of_sorted _ _ _ ["pages"] rfl (by decide +kernel)]
      decide +kernel
    exact (exists_buildFrom_iff found).mpr (by decide +kernel)
  · have found : discover ⟨[], [(["pages"], .directory), page, beside]⟩ ⟨"pages"⟩ ".liquid" =
        .ok [⟨"pages/a.liquid"⟩, ⟨"pages/b.liquid"⟩] := by
      rw [@discover_of_sorted _ _ _ ["pages"] rfl (by decide +kernel)]
      decide +kernel
    have none : (buildAll .usual Library.empty.read ⟨[], [(["pages"], .directory), page, beside]⟩
        .empty [⟨"pages/a.liquid"⟩, ⟨"pages/b.liquid"⟩]).isNone := by
      decide +kernel
    exact (buildFrom_of_discover found).trans
      (by rw [Option.isNone_iff_eq_none.mp none, Option.elim_none])

end Site
end TemplateSite
