import TemplateSite.Data.Value

/-!
# Contexts

What a template sees while it is rendered, and what it leaves for the rest of the rendering. Names
are looked up in the scopes, the innermost first, then among the assigned names, and last in the
data.
-/
namespace TemplateSite

/-- Whether blocks write their content out or store it for a layout. -/
inductive BlockMode where
  | output
  | store
deriving DecidableEq, Repr

/-- The state of names, blocks and nesting. -/
structure Context where
  data : Value
  /-- Assigned names. -/
  globals : Record Value
  /-- Loop variables and arguments of includes, the innermost scope first. -/
  scopes : List (Record Value)
  /-- The content of blocks by name. -/
  blocks : Record String
  mode : BlockMode
  /-- The number of includes and layouts around the current place. -/
  depth : Nat

namespace Context

def initial (data : Value) : Context :=
  ⟨data, [], [], [], .output, 0⟩

def push (ctx : Context) (scope : Record Value) : Context :=
  { ctx with scopes := scope :: ctx.scopes }

def pop (ctx : Context) : Context :=
  { ctx with scopes := ctx.scopes.tail }

/-- Gives a name a value for the rest of the rendering. -/
def assign (ctx : Context) (name : String) (value : Value) : Context :=
  { ctx with globals := ctx.globals.insert name value }

/-- The value of a name in the innermost scope that has it. -/
def inScopes? (name : String) : List (Record Value) → Option Value
  | [] => none
  | scope :: rest =>
    match scope.get? name with
    | some v => some v
    | none => inScopes? name rest

def inData? (name : String) : Value → Option Value
  | .object fields => Record.get? name fields
  | _ => none

def get? (ctx : Context) (name : String) : Option Value :=
  match inScopes? name ctx.scopes with
  | some v => some v
  | none =>
    match ctx.globals.get? name with
    | some v => some v
    | none => inData? name ctx.data

end Context
end TemplateSite
