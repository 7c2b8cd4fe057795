import TemplateSite.Calendar.Date
import TemplateSite.Data.Value

/-!
# Options

What a build is configured with. The options stay the same during a build.
-/
namespace TemplateSite

/-- The configuration of a build. -/
structure Options where
  /-- What stands before every file name. -/
  root : String
  /-- What stands after every file name. -/
  extname : String
  /-- Whether dependencies are recorded. -/
  dev : Bool
  /-- The data that templates see. -/
  data : Value
  /-- Whether an undefined variable is an error. -/
  strictVariables : Bool
  /-- Whether an unknown filter is an error. -/
  strictFilters : Bool
  /-- How deep includes and layouts may be nested. -/
  maxIncludeDepth : Nat
  /-- The moment at which the build runs. -/
  now : Calendar.Moment
deriving Inhabited

namespace Options

/-- The extension of files unless another one is set. -/
def usualExtname : String := ".liquid"

def usual : Options where
  root := ""
  extname := usualExtname
  dev := false
  data := .emptyObject
  strictVariables := false
  strictFilters := false
  maxIncludeDepth := 64
  now := .epoch

end Options
end TemplateSite
