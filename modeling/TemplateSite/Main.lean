import Std.Time.DateTime.Timestamp
import TemplateSite.Site.CommandLine

/-!
# The program

Reads the files of the working directory and what the arguments name, runs the command line on them,
and carries out what it changed.
-/
namespace TemplateSite.Main

def locationOf (path : String) : Location :=
  (path.splitOn "/").filter fun name => !name.isEmpty

def pathOf (location : Location) : String :=
  "/" ++ "/".intercalate location

/-- Reads a directory entry and what is inside it; what cannot be read is left out. -/
partial def readEntry (around : Location) (entry : IO.FS.DirEntry) :
    IO (List (Location × FileEntry)) := do
  let location := around ++ [entry.fileName]
  try
    match (← entry.path.metadata).type with
    | .dir =>
      let inside ← (← entry.path.readDir).toList.mapM (readEntry location)
      return (location, .directory) :: inside.flatten
    | .file => return [(location, .file (← IO.FS.readBinFile entry.path))]
    | _ => return []
  catch _ => return []

def directoriesTo (location : Location) : List (Location × FileEntry) :=
  (List.range (location.length + 1)).map fun n => (location.take n, .directory)

/-- Adds what a path leads to, with all that is inside, if it exists. -/
def addPath (entries : List (Location × FileEntry)) (path : String) :
    IO (List (Location × FileEntry)) := do
  try
    let real ← IO.FS.realPath path
    let location := locationOf real.toString
    if entries.any fun e => e.1 == location then return entries
    if ← real.isDir then
      let inside ← (← real.readDir).toList.mapM (readEntry location)
      return entries ++ directoriesTo location ++ inside.flatten
    else
      let content ← IO.FS.readBinFile real
      return entries ++ directoriesTo location.dropLast ++ [(location, .file content)]
  catch _ => return entries

/-- The directory part of the text that stands before every file name. -/
def directoryOf (root : String) : String :=
  let around := (Path.pieces root.toList).dropLast
  if around.isEmpty then "." else String.ofList (joinPieces around) ++ "/"

def paths (args : List String) : List String :=
  match CommandLine.read args with
  | .given g =>
    [".", g.pages.text, g.out.text, directoryOf (g.options .epoch).root] ++
      (g.value? .data).toList
  | _ => []

def now : IO Calendar.Moment := do
  let nanoseconds := (← Std.Time.Timestamp.now).toNanosecondsSinceUnixEpoch.val
  return .ofSeconds 0 (nanoseconds / 1000000000) (nanoseconds % 1000000000).toNat

def carryOut (change : Location × FileEntry) : IO Unit :=
  match change.2 with
  | .directory => IO.FS.createDirAll (pathOf change.1)
  | .file content => IO.FS.writeBinFile (pathOf change.1) content

def run (args : List String) : IO UInt32 := do
  let workingDirectory := locationOf (← IO.currentDir).toString
  let entries ← (paths args).foldlM addPath []
  let files : FileTree := ⟨workingDirectory, entries⟩
  let finished := CommandLine.run (← now) args files
  (finished.files.newSince files).forM carryOut
  for line in finished.log do
    IO.println ("INFO " ++ line)
  match finished.ending.error? with
  | some message => IO.eprintln message
  | none => pure ()
  return finished.ending.code.toUInt32

end TemplateSite.Main

def main (args : List String) : IO UInt32 :=
  TemplateSite.Main.run args
