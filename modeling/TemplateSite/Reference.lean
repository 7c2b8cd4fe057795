import TemplateSite.Path

/-!
# File references

A tag names a file by a reference, which may stand in quotes. The file's path is the root, the bare
name and the extension, spelled one after the other; whether the file exists does not matter.
-/
namespace TemplateSite.Reference

/-- The two quotation marks. -/
def isQuote (c : Char) : Bool :=
  c == '\x27' || c == '\x22'

/-- Takes one quotation mark off the front and then one off the end, whichever they are. -/
def stripQuotes (s : List Char) : List Char :=
  let opened :=
    match s with
    | [] => []
    | c :: rest => if isQuote c then rest else s
  match opened.getLast? with
  | none => []
  | some c => if isQuote c then opened.dropLast else opened

def join (root name extname : String) : Path :=
  ⟨root ++ name ++ extname⟩

/-- The path of a reference as it is written in a tag. -/
def resolve (raw root extname : String) : Path :=
  join root (String.ofList (stripQuotes raw.toList)) extname

def isQuoted (raw : List Char) : Bool :=
  match raw with
  | [] => false
  | c :: _ => isQuote c

end TemplateSite.Reference
