import TemplateSite.Data.Printing
import TemplateSite.Path
import TemplateSite.Template.Fault

/-!
# What can go wrong while rendering
-/
namespace TemplateSite

/-- Why a file cannot be read. -/
inductive ReadFault where
  /-- A store of templates has no file under the path. -/
  | noTemplate (path : Path)
  | notFound
  | isDirectory
  | notDirectory
  | nameTooLong
  | notUtf8
  | nulByte
deriving DecidableEq

def ReadFault.message : ReadFault → String
  | .noTemplate path => "no template at " ++ path.text
  | .notFound => "No such file or directory (os error 2)"
  | .isDirectory => "Is a directory (os error 21)"
  | .notDirectory => "Not a directory (os error 20)"
  | .nameTooLong => "File name too long (os error 36)"
  | .notUtf8 => "stream did not contain valid UTF-8"
  | .nulByte => "file name contained an unexpected NUL byte"

inductive LoopBound where
  | offset
  | limit
deriving DecidableEq, Repr

def LoopBound.name : LoopBound → String
  | .offset => "offset"
  | .limit => "limit"

inductive Arithmetic where
  | plus
  | minus
  | times
deriving DecidableEq, Repr

def Arithmetic.name : Arithmetic → String
  | .plus => "plus"
  | .minus => "minus"
  | .times => "times"

/-- Why an operation does not accept a value. -/
inductive TypeFault where
  | rangeBounds (first last : Value.Kind)
  | rangeTooLarge (first last : Int64)
  | loopBound (bound : LoopBound) (kind : Value.Kind)
  | notNumeral (filter : Arithmetic) (text : String)
  | notNumber (filter : Arithmetic) (kind : Value.Kind)
  | integerOverflow (filter : Arithmetic)
  | datePatternKind
  | datePattern (pattern : String)
deriving DecidableEq

def TypeFault.message : TypeFault → String
  | .rangeBounds first last =>
    "range bounds must be integers, got " ++ first.name ++ " and " ++ last.name
  | .rangeTooLarge first last =>
    "range (" ++ Value.integerText first ++ ".." ++ Value.integerText last ++ ") is too large"
  | .loopBound bound kind => "for " ++ bound.name ++ ": expected an integer, got " ++ kind.name
  | .notNumeral filter text => filter.name ++ ": '" ++ text ++ "' is not a number"
  | .notNumber filter kind => filter.name ++ ": expected a number, got " ++ kind.name
  | .integerOverflow filter => filter.name ++ ": integer overflow"
  | .datePatternKind => "date: format must be a string"
  | .datePattern pattern => "date: invalid format '" ++ pattern ++ "'"

/-- Why a template does not render. -/
inductive RenderFault where
  | undefinedVariable (shown : String)
  | undefinedFilter (name : String)
  | type (fault : TypeFault)
  /-- A bare file reference that is no variable path. -/
  | malformedReference (raw : String)
  /-- A bare file reference whose variable does not hold a text. -/
  | referenceKind (kind : Value.Kind)
  | unreadable (path : Path) (cause : ReadFault)
  | invalidPartial (path : Path) (cause : CompileFault)
  | includeDepth (limit : Nat) (path : Path)
deriving DecidableEq

def RenderFault.message : RenderFault → String
  | .undefinedVariable shown => "undefined variable: " ++ shown
  | .undefinedFilter name => "undefined filter: " ++ name
  | .type fault => "type error: " ++ fault.message
  | .malformedReference raw => "include name must be a string, got '" ++ raw ++ "'"
  | .referenceKind kind => "include name must be a string, got " ++ kind.name
  | .unreadable path cause => "failed to read template " ++ path.text ++ ": " ++ cause.message
  | .invalidPartial path cause => "failed to compile " ++ path.text ++ ": " ++ cause.message
  | .includeDepth limit path =>
    "include depth exceeded " ++ toString limit ++ " while rendering " ++ path.text

/-- The outcome of rendering something. -/
abbrev Outcome := Except (Failure RenderFault)

namespace Outcome

def fault {α : Type} (f : RenderFault) : Outcome α :=
  .error (.fault f)

end Outcome
end TemplateSite
