import TemplateSite.Options.Reading
import TemplateSite.Site.Pages

/-!
# The command line

Arguments are read from the left. Every option and flag may be given once; an option takes the next
argument, or what follows an equals sign, and a value of its own may start with a dash only after
such a sign. Asking for help or the version ends the reading, unless something was wrong before.
-/
namespace TemplateSite.CommandLine

/-- The options with a value. -/
inductive Name where
  | pages
  | partials
  | data
  | out
  | extname
deriving DecidableEq, Repr

/-- The options without a value. -/
inductive Flag where
  | dev
  | strict
deriving DecidableEq, Repr

/-- What has been given so far. -/
structure Given where
  values : List (Name × String)
  flags : List Flag
deriving Inhabited

/-- How the reading of arguments ends. -/
inductive Reading where
  | given (g : Given)
  /-- Help or the version is asked for. -/
  | information
  | wrongUsage

def Name.ofText? (s : List Char) : Option Name :=
  match String.ofList s with
  | "pages" => some .pages
  | "partials" => some .partials
  | "data" => some .data
  | "out" => some .out
  | "extname" => some .extname
  | _ => none

def Flag.ofText? (s : List Char) : Option Flag :=
  match String.ofList s with
  | "dev" => some .dev
  | "strict" => some .strict
  | _ => none

/-- Whether the empty text is no value for an option: paths may not be empty. -/
def Name.needsText : Name → Bool
  | .pages => true
  | .data => true
  | .out => true
  | .partials => false
  | .extname => false

/-- Adds the value of an option, unless it has one or the value does not fit. -/
def Given.setValue? (g : Given) (name : Name) (value : String) : Option Given :=
  if g.values.any (fun entry => entry.1 == name) || (name.needsText && value.isEmpty) then none
  else some { g with values := (name, value) :: g.values }

def Given.setFlag? (g : Given) (flag : Flag) : Option Given :=
  if flag ∈ g.flags then none else some { g with flags := flag :: g.flags }

def canBeValue (s : List Char) : Bool :=
  s.head? != some '-' || s == ['-']

/-- Whether a long name asks for help or the version. -/
def isInformation (s : List Char) : Bool :=
  s == "help".toList || s == "version".toList

inductive Argument where
  /-- Two dashes alone: no options follow. -/
  | separator
  | information
  | flag (f : Flag)
  | option (name : Name)
  | optionWith (name : Name) (value : String)
  | unknown

def Argument.of (s : List Char) : Argument :=
  match s with
  | ['-', '-'] => .separator
  | '-' :: '-' :: long =>
    let name := long.takeWhile (· != '=')
    match long.dropWhile (· != '=') with
    | _ :: value =>
      match Name.ofText? name with
      | some name => .optionWith name (String.ofList value)
      | none => .unknown
    | [] =>
      if isInformation name then .information
      else
        match Name.ofText? name, Flag.ofText? name with
        | some name, _ => .option name
        | none, some f => .flag f
        | none, none => .unknown
  | '-' :: 'h' :: _ => .information
  | '-' :: 'V' :: _ => .information
  | _ => .unknown

def readFrom (g : Given) : List String → Reading
  | [] => .given g
  | arg :: rest =>
    match Argument.of arg.toList with
    | .separator => if rest.isEmpty then .given g else .wrongUsage
    | .information => .information
    | .unknown => .wrongUsage
    | .flag flag =>
      match g.setFlag? flag with
      | none => .wrongUsage
      | some g => readFrom g rest
    | .optionWith name value =>
      match g.setValue? name value with
      | none => .wrongUsage
      | some g => readFrom g rest
    | .option name =>
      match rest with
      | [] => .wrongUsage
      | value :: rest =>
        if canBeValue value.toList then
          match g.setValue? name value with
          | none => .wrongUsage
          | some g => readFrom g rest
        else .wrongUsage

def read (args : List String) : Reading :=
  readFrom ⟨[], []⟩ args

def Given.value? (g : Given) (name : Name) : Option String :=
  g.values.lookup name

def Given.pages (g : Given) : Path :=
  ⟨(g.value? .pages).getD "src/pages"⟩

def Given.out (g : Given) : Path :=
  ⟨(g.value? .out).getD "dist"⟩

/-- The options of the build, apart from its data. -/
def Given.options (g : Given) (now : Calendar.Moment) : Options :=
  let strict := decide (Flag.strict ∈ g.flags)
  { Options.usual with
    root := (g.value? .partials).getD "src/pages/partials/"
    extname := (g.value? .extname).getD Options.usualExtname
    dev := decide (Flag.dev ∈ g.flags)
    strictVariables := strict
    strictFilters := strict
    now }

inductive Ending where
  | success
  /-- Help or the version was asked for. -/
  | information
  | wrongUsage
  | failure (message : String)
deriving DecidableEq

def Ending.code : Ending → Nat
  | .success => 0
  | .information => 0
  | .failure _ => 1
  | .wrongUsage => 2

def Ending.error? : Ending → Option String
  | .failure message => some ("Error: " ++ message)
  | _ => none

/-- A finished run: how it ended, what it logged, and the files after it. -/
structure Finished where
  ending : Ending
  log : List String
  files : FileTree

def dependencyLines (registry : Registry) : List String :=
  registry.resources.flatMap fun resource =>
    (registry.dependencies resource).map fun path => resource ++ " -> " ++ path.text

def build (now : Calendar.Moment) (g : Given) (files : FileTree) : Finished :=
  let options : Except String Options :=
    match g.value? .data with
    | none => .ok (g.options now)
    | some file => ((g.options now).withDataFile files ⟨file⟩).mapError fun _ =>
      "failed to load data from " ++ file
  match options with
  | .error message => ⟨.failure message, [], files⟩
  | .ok options =>
    match Site.build options files g.pages with
    | .error fault => ⟨.failure fault.message, [], files⟩
    | .ok site =>
      match site.write g.out files with
      | (.error fault, files) => ⟨.failure fault.message, [], files⟩
      | (.ok count, files) =>
        let log := ("wrote " ++ toString count ++ " pages to " ++ g.out.text) ::
          (if options.dev then dependencyLines site.registry else [])
        let failed := site.failures
        if failed = 0 then ⟨.success, log, files⟩
        else
          ⟨.failure (toString failed ++ " of " ++ toString site.pages.length ++ " pages failed"),
            log, files⟩

def run (now : Calendar.Moment) (args : List String) (files : FileTree) : Finished :=
  match read args with
  | .information => ⟨.information, [], files⟩
  | .wrongUsage => ⟨.wrongUsage, [], files⟩
  | .given g => build now g files

end TemplateSite.CommandLine
