import TemplateSite.Path

/-!
# File names and their extensions

The extension of a file name starts at its last dot, unless that dot is the first character. The
file name of a path is its last component, if that is a name.
-/
namespace TemplateSite

/-- A file name without its extension. -/
def fileStem (name : List Char) : List Char :=
  let before := (name.reverse.dropWhile (· != '.')).drop 1
  if before.isEmpty || name == ['.', '.'] then name else before.reverse

/-- Drops the pieces at the end that are no components. -/
def dropVoidPieces (pieces : List (List Char)) : List (List Char) :=
  (pieces.reverse.dropWhile fun piece => piece.isEmpty || piece == ['.']).reverse

def joinPieces (pieces : List (List Char)) : List Char :=
  List.intercalate ['/'] pieces

/-- A path with another extension; a path without a file name is kept. -/
def Path.withExtension (path : Path) (extension : String) : Path :=
  let pieces := dropVoidPieces (pieces path.text.toList)
  match pieces.getLast? with
  | none => path
  | some name =>
    if name == ['.', '.'] then path
    else
      let renamed := fileStem name ++ '.' :: extension.toList
      ⟨String.ofList (joinPieces (pieces.dropLast ++ [renamed]))⟩

end TemplateSite
