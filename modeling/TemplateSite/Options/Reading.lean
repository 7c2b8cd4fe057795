import TemplateSite.Data.Description
import TemplateSite.Files.Tree
import TemplateSite.Json.Reader
import TemplateSite.Options

/-!
# Reading options and data

Options are read from a JSON object whose fields may each occur once, or from an array of the fields
in their order. Fields with other names do not count. The data of a template must be an object, or
nothing.
-/
namespace TemplateSite

/-- Why options are refused. -/
inductive OptionsFault where
  | invalid
  | unrepresentable
  | dataKind (kind : Value.Kind)
  | dataUnreadable (path : Path)
  | dataInvalid (path : Path)
deriving DecidableEq

def OptionsFault.message : OptionsFault → String
  | .invalid => "invalid loader options"
  | .unrepresentable => "data context is not representable"
  | .dataKind kind => "data context must be an object, got " ++ kind.name
  | .dataUnreadable path => "failed to read data file: " ++ path.text
  | .dataInvalid path => "invalid JSON in data file: " ++ path.text

namespace Options

/-- The fields of options, in their order. -/
inductive Field where
  | root
  | extname
  | dev
  | data
  | strictVariables
  | strictFilters
  | maxIncludeDepth
deriving DecidableEq, Repr

def Field.name : Field → String
  | .root => "root"
  | .extname => "extname"
  | .dev => "dev"
  | .data => "data"
  | .strictVariables => "strictVariables"
  | .strictFilters => "strictFilters"
  | .maxIncludeDepth => "maxIncludeDepth"

def Field.all : List Field :=
  [.root, .extname, .dev, .data, .strictVariables, .strictFilters, .maxIncludeDepth]

def Field.ofName? (name : String) : Option Field :=
  all.find? fun field => field.name == name

/-- Sets a field to what a document holds, if that is of the right kind. The data lies inside the
array or the object of the options, which counts for its depth. -/
def set? (options : Options) (field : Field) (json : Json) : Option Options :=
  match field, json with
  | .root, .text (some s) => some { options with root := s }
  | .extname, .text (some s) => some { options with extname := s }
  | .dev, .bool b => some { options with dev := b }
  | .data, _ =>
    if Json.maxDepth ≤ json.depth then none
    else json.toValue?.map fun data => { options with data }
  | .strictVariables, .bool b => some { options with strictVariables := b }
  | .strictFilters, .bool b => some { options with strictFilters := b }
  | .maxIncludeDepth, .number n =>
    n.toNat?.map fun depth => { options with maxIncludeDepth := depth }
  | _, _ => none

/-- Sets fields from entries; `seen` are the fields that may not occur again. -/
def ofEntries? (options : Options) (seen : List Field) :
    List (Option String × Json) → Option Options
  | [] => some options
  | (none, _) :: _ => none
  | (some name, json) :: rest =>
    match Field.ofName? name with
    | none => ofEntries? options seen rest
    | some field =>
      if field ∈ seen then none
      else
        match options.set? field json with
        | none => none
        | some options => ofEntries? options (field :: seen) rest

def ofItems? (options : Options) : List Field → List Json → Option Options
  | _, [] => some options
  | [], _ :: _ => none
  | field :: fields, json :: rest =>
    match options.set? field json with
    | none => none
    | some options => ofItems? options fields rest

/-- The options of a document, whatever their data is. -/
def ofDocument? : Json → Option Options
  | .object entries => ofEntries? usual [] entries
  | .array items => ofItems? usual Field.all items
  | _ => none

/-- Refuses data that is neither an object nor nothing. -/
def checkData (options : Options) : Except OptionsFault Options :=
  match options.data with
  | .object _ => .ok options
  | .nil => .ok options
  | v => .error (.dataKind v.kind)

def parse (s : String) : Except OptionsFault Options :=
  match (Json.read s.toList).bind ofDocument? with
  | none => .error .invalid
  | some options => options.checkData

def withData (options : Options) (d : Description) : Except OptionsFault Options :=
  match d.build with
  | .error _ => .error .unrepresentable
  | .ok data => { options with data }.checkData

def withDataFile (options : Options) (tree : FileTree) (path : Path) :
    Except OptionsFault Options :=
  match tree.read path with
  | .error _ => .error (.dataUnreadable path)
  | .ok s =>
    match Json.read s.toList with
    | none => .error (.dataInvalid path)
    | some json =>
      if Json.maxDepth < json.depth then .error (.dataInvalid path)
      else
        match json.toValue? with
        | none => .error (.dataInvalid path)
        | some data => { options with data }.checkData

end Options
end TemplateSite
