import TemplateSite.Render.Fault
import TemplateSite.Template.Compile

/-!
# Reading partials

A partial is a file that an include or a layout names. It can be read and compiled anew each time,
or kept for the rest of a rendering once it compiled; spellings of the same place share one entry.
-/
namespace TemplateSite

/-- Where files are read from. -/
abbrev Source := Path → Except ReadFault String

/-- Files in memory by path. Where two spellings name one place, the first file counts. -/
structure Library where
  files : List (Path × String)

namespace Library

def empty : Library :=
  ⟨[]⟩

/-- Puts a file in its place; a file that was there is replaced and keeps its spelling. -/
def insert (library : Library) (path : Path) (content : String) : Library :=
  if library.files.any fun file => file.1.same path then
    ⟨library.files.map fun file => if file.1.same path then (file.1, content) else file⟩
  else ⟨library.files ++ [(path, content)]⟩

def find? (library : Library) (path : Path) : Option String :=
  (library.files.find? fun file => file.1.same path).map Prod.snd

def read (library : Library) : Source := fun path =>
  match library.find? path with
  | some content => .ok content
  | none => .error (.noTemplate path)

def size (library : Library) : Nat :=
  library.files.length

end Library

/-- Compiled partials by path. -/
abbrev PartialCache := List (Path × List Node)

namespace PartialCache

def find? (cache : PartialCache) (path : Path) : Option (List Node) :=
  (List.find? (fun entry => entry.1.same path) cache).map Prod.snd

end PartialCache

def loadAnew (source : Source) (path : Path) : Outcome (List Node) :=
  match source path with
  | .error cause => .fault (.unreadable path cause)
  | .ok content => (compile content).mapError (Failure.map (.invalidPartial path))

/-- How partials are come by. -/
abbrev Loader := Path → PartialCache → Outcome (List Node × PartialCache)

/-- Reads and compiles every time. -/
def Loader.direct (source : Source) : Loader := fun path cache => do
  let nodes ← loadAnew source path
  return (nodes, cache)

/-- Reads and compiles only what has not been compiled before. -/
def Loader.cached (source : Source) : Loader := fun path cache =>
  match cache.find? path with
  | some nodes => .ok (nodes, cache)
  | none => do
    let nodes ← loadAnew source path
    return (nodes, (path, nodes) :: cache)

end TemplateSite
