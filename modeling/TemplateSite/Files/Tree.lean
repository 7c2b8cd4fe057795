import TemplateSite.Path
import TemplateSite.Render.Fault
import TemplateSite.Text.Utf8

/-!
# A tree of files

Files and directories by location, and a working directory at which relative paths start. A path is
followed piece by piece; every piece but the last must lead to a directory that exists. There are no
links, so two dots always lead to the directory around.
-/
namespace TemplateSite

/-- Where something is: the names from the root down. -/
abbrev Location := List String

/-- What is at a location. -/
inductive FileEntry where
  | directory
  | file (content : ByteArray)
deriving Inhabited

def FileEntry.same : FileEntry → FileEntry → Bool
  | .directory, .directory => true
  | .file a, .file b => a.data == b.data
  | _, _ => false

/-- Files and directories. The root and the working directory always exist. -/
structure FileTree where
  workingDirectory : Location
  entries : List (Location × FileEntry)
deriving Inhabited

/-- Where a path leads. -/
inductive Place where
  | existing (location : Location) (entry : FileEntry)
  /-- Nothing with this name is in an existing directory; whether slashes follow the name. -/
  | absent (parent : Location) (name : String) (slashed : Bool)

namespace FileTree

/-- The longest name in bytes. -/
def maxNameLength : Nat := 255

/-- The number of bytes from which a path is too long. -/
def pathLimit : Nat := 4096

def entryAt? (tree : FileTree) (location : Location) : Option FileEntry :=
  if location = [] || location = tree.workingDirectory then some .directory
  else tree.entries.lookup location

def put (tree : FileTree) (location : Location) (entry : FileEntry) : FileTree :=
  if tree.entries.any fun e => e.1 == location then
    { tree with
      entries := tree.entries.map fun e => if e.1 == location then (location, entry) else e }
  else { tree with entries := tree.entries ++ [(location, entry)] }

/-- Follows the pieces of a path from a directory. -/
def follow (tree : FileTree) (location : Location) : List (List Char) → Except ReadFault Place
  | [] =>
    match tree.entryAt? location with
    | some entry => .ok (.existing location entry)
    | none => .error .notFound
  | piece :: rest =>
    match tree.entryAt? location with
    | none => .error .notFound
    | some (.file _) => .error .notDirectory
    | some .directory =>
      if piece.isEmpty || piece == ['.'] then tree.follow location rest
      else if piece == ['.', '.'] then tree.follow location.dropLast rest
      else
        let name := String.ofList piece
        if maxNameLength < name.utf8ByteSize then .error .nameTooLong
        else
          match tree.entryAt? (location ++ [name]) with
          | some _ => tree.follow (location ++ [name]) rest
          | none =>
            if rest.all List.isEmpty then .ok (.absent location name (!rest.isEmpty))
            else .error .notFound

def startOf (tree : FileTree) (s : List Char) : Location :=
  if s.head? == some '/' then [] else tree.workingDirectory

/-- Refuses a path that no system call would take. -/
def checkPath (path : Path) : Except ReadFault Unit :=
  if path.text.toList.contains '\x00' then .error .nulByte
  else if path.text.isEmpty then .error .notFound
  else if pathLimit ≤ path.text.utf8ByteSize then .error .nameTooLong
  else .ok ()

def locate (tree : FileTree) (path : Path) : Except ReadFault Place := do
  checkPath path
  let s := path.text.toList
  tree.follow (tree.startOf s) (Path.pieces s)

def read (tree : FileTree) (path : Path) : Except ReadFault String := do
  match ← tree.locate path with
  | .absent .. => throw .notFound
  | .existing _ .directory => throw .isDirectory
  | .existing _ (.file content) =>
    match Text.decode? content with
    | some s => return s
    | none => throw .notUtf8

def nameInside? (location : Location) (inside : Location) : Option String :=
  match inside.getLast? with
  | none => none
  | some name => if inside.dropLast = location then some name else none

/-- The names of the files directly inside a directory, in ascending order; a path that leads to a
file has none. -/
def fileNames? (tree : FileTree) (path : Path) : Option (List String) :=
  match tree.locate path with
  | .ok (.existing location .directory) =>
    let names := tree.entries.filterMap fun (inside, entry) =>
      match entry with
      | .directory => none
      | .file _ => nameInside? location inside
    some (names.mergeSort fun a b => decide (a ≤ b))
  | .ok (.existing _ (.file _)) => some []
  | _ => none

/-- Whether single dots are all that comes. -/
def onlyDots (pieces : List (List Char)) : Bool :=
  pieces.contains ['.'] && pieces.all fun piece => piece.isEmpty || piece == ['.']

/-- Makes the directories that are missing on the way of pieces. A directory after which only dots
follow has to be there already. -/
def makeAlong (tree : FileTree) (location : Location) : List (List Char) → Option FileTree
  | [] => some tree
  | piece :: rest =>
    if piece.isEmpty || piece == ['.'] then tree.makeAlong location rest
    else if piece == ['.', '.'] then tree.makeAlong location.dropLast rest
    else
      let name := String.ofList piece
      let inside := location ++ [name]
      if maxNameLength < name.utf8ByteSize then none
      else
        match tree.entryAt? inside with
        | some .directory => tree.makeAlong inside rest
        | some (.file _) => none
        | none => if onlyDots rest then none else (tree.put inside .directory).makeAlong inside rest

/-- Makes a directory and the directories around it that are missing; the empty path needs none. -/
def makeDirectories (tree : FileTree) (path : Path) : Option FileTree :=
  if path.text.isEmpty then some tree
  else
    match checkPath path with
    | .error _ => none
    | .ok () =>
      let s := path.text.toList
      tree.makeAlong (tree.startOf s) (Path.pieces s)

def write (tree : FileTree) (path : Path) (content : ByteArray) : Option FileTree :=
  match tree.locate path with
  | .ok (.existing location (.file _)) => some (tree.put location (.file content))
  | .ok (.absent parent name false) => some (tree.put (parent ++ [name]) (.file content))
  | _ => none

def relative? (tree : FileTree) (location : Location) : Option String :=
  if tree.workingDirectory.isPrefixOf location then
    some ("/".intercalate (location.drop tree.workingDirectory.length))
  else none

def holds (tree : FileTree) (location : Location) (entry : FileEntry) : Bool :=
  match tree.entryAt? location with
  | some found => found.same entry
  | none => false

def newSince (tree earlier : FileTree) : List (Location × FileEntry) :=
  tree.entries.filter fun e => !earlier.holds e.1 e.2

/-- The files below the working directory that another tree does not hold with the same content, in
ascending order of their paths. -/
def changedSince (tree earlier : FileTree) : List (String × ByteArray) :=
  let changed := (tree.newSince earlier).filterMap fun (location, entry) =>
    match entry with
    | .directory => none
    | .file content => (tree.relative? location).map fun path => (path, content)
  changed.mergeSort fun a b => decide (a.1 ≤ b.1)

end FileTree
end TemplateSite
