import TemplateSite.Build.Load
import TemplateSite.Files.Name
import TemplateSite.Files.Tree

/-!
# Building a site

Every page of a directory is built on one registry and written below an output directory. A page
that fails is reported and does not stop the others; a build that breaks down stops them all.
-/
namespace TemplateSite

/-- Why a page has no output. -/
inductive PageFault where
  | unreadable (path : Path)
  | load (fault : LoadFault)
deriving DecidableEq

def PageFault.message : PageFault → String
  | .unreadable path => "failed to read page " ++ path.text
  | .load fault => fault.message

/-- A page that has been built. -/
structure Page where
  path : Path
  result : Except PageFault String

/-- The resource that a page's dependencies are recorded for. -/
def Page.name (page : Page) : String :=
  page.path.text

def Page.failed (page : Page) : Bool :=
  match page.result with
  | .ok _ => false
  | .error _ => true

/-- The pages of a site in order, and what their builds recorded. -/
structure Site where
  pages : List Page
  registry : Registry

/-- Why a site is not built or not written. -/
inductive SiteFault where
  | unlistable (dir : Path)
  | breakdown
  | uncreatable (dir : Path)
  | unwritable (path : Path)
deriving DecidableEq

def SiteFault.message : SiteFault → String
  | .unlistable dir => "failed to list " ++ dir.text
  | .breakdown => "page build task panicked"
  | .uncreatable dir => "failed to create " ++ dir.text
  | .unwritable path => "failed to write " ++ path.text

namespace Site

/-- The pages of a directory: the files directly inside whose names end in the extension, in
ascending order. -/
def discover (tree : FileTree) (dir : Path) (extname : String) : Except SiteFault (List Path) :=
  match tree.fileNames? dir with
  | none => .error (.unlistable dir)
  | some names =>
    let pages := names.filter fun name => extname.toList.isSuffixOf name.toList
    .ok (pages.map dir.join)

/-- Builds one page; there is no page if the build breaks down. -/
def buildPage (options : Options) (partials : Source) (tree : FileTree) (registry : Registry)
    (path : Path) : Option (Page × Registry) :=
  let (registry, host) := registry.begin path.text
  match tree.read path with
  | .error _ => some (⟨path, .error (.unreadable path)⟩, registry)
  | .ok text =>
    match (BuildSetup.mk options partials).load text ⟨registry, host⟩ with
    | (.ok s, state) => some (⟨path, .ok s⟩, state.registry)
    | (.error (.fault fault), state) => some (⟨path, .error (.load fault)⟩, state.registry)
    | (.error .breakdown, _) => none

def buildAll (options : Options) (partials : Source) (tree : FileTree) (registry : Registry) :
    List Path → Option Site
  | [] => some ⟨[], registry⟩
  | path :: rest =>
    match buildPage options partials tree registry path with
    | none => none
    | some (page, registry) =>
      (buildAll options partials tree registry rest).map fun site =>
        { site with pages := page :: site.pages }

/-- Builds every page of a directory, with partials from a source. -/
def buildFrom (options : Options) (partials : Source) (tree : FileTree) (dir : Path) :
    Except SiteFault Site :=
  match discover tree dir options.extname with
  | .error fault => .error fault
  | .ok paths =>
    match buildAll options partials tree .empty paths with
    | none => .error .breakdown
    | some site => .ok site

/-- Builds every page of a directory, with partials from the same files. -/
def build (options : Options) (tree : FileTree) (dir : Path) : Except SiteFault Site :=
  buildFrom options tree.read tree dir

def failures (site : Site) : Nat :=
  site.pages.countP Page.failed

/-- The file name of a path spelled as a directory and a name. -/
def lastName (path : Path) : List Char :=
  (Path.pieces path.text.toList).getLast?.getD []

/-- The file that a page is written to. -/
def target (out : Path) (page : Path) : Path :=
  (out.join (String.ofList (fileStem (lastName page)))).withExtension "html"

/-- Writes pages in order until one cannot be written, and counts them; a failed page is left
out. -/
def writeAll (out : Path) (tree : FileTree) : List Page → Except SiteFault Nat × FileTree
  | [] => (.ok 0, tree)
  | page :: rest =>
    match page.result with
    | .error _ => writeAll out tree rest
    | .ok html =>
      let path := target out page.path
      match tree.write path html.toUTF8 with
      | none => (.error (.unwritable path), tree)
      | some tree =>
        let (count, tree) := writeAll out tree rest
        (count.map (· + 1), tree)

/-- Writes the pages that were built below a directory, which is made if it is missing. -/
def write (site : Site) (out : Path) (tree : FileTree) : Except SiteFault Nat × FileTree :=
  match tree.makeDirectories out with
  | none => (.error (.uncreatable out), tree)
  | some tree => writeAll out tree site.pages

end Site
end TemplateSite
