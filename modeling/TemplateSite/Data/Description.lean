import TemplateSite.Data.Printing
import TemplateSite.Decimal.Numeral

/-!
# Building values from descriptions

A description tells, step by step, how some other data is laid out: scalars, wrappers, sequences,
the keys and values of maps, and the fields of structures. Building a value from it fails at the
first part that has no counterpart among values: an integer type of 128 bits, a part that announces
its own failure, a map key that is no text, integer or truth value, or a map value without a key
before it.
-/
namespace TemplateSite

inductive MapPart where
  | key
  | value
deriving DecidableEq, Repr

/-- A layout of data. -/
inductive Description where
  | truth (b : Bool)
  /-- A signed integer of at most 64 bits. -/
  | signed (n : Int64)
  /-- An unsigned integer of at most 64 bits. -/
  | unsigned (n : UInt64)
  /-- An integer of a type that values do not have. -/
  | wide (typeName : String)
  | float (x : Float)
  | text (s : String)
  | bytes (octets : List UInt8)
  /-- Nothing: an absent optional part or a unit. -/
  | nothing
  /-- A wrapper that leaves no trace. -/
  | wrapped (d : Description)
  | sequence (items : List Description)
  /-- The keys and values of a map as they come. A value goes under the key right before it, and a
  key that another one follows is dropped. -/
  | mapping (parts : List (MapPart × Description))
  | structure (fields : List (String × Description))
  /-- A part that fails with a message. -/
  | failing (message : String)
deriving Inhabited

/-- Why a description has no value. -/
inductive ValueFault where
  | unsupported (typeName : String)
  | custom (message : String)
  | keyKind (kind : Value.Kind)
  | missingKey
deriving DecidableEq, Repr

def ValueFault.message : ValueFault → String
  | .unsupported typeName => typeName ++ " is not supported"
  | .custom message => message
  | .keyKind kind => "map key must be a string, got " ++ kind.name
  | .missingKey => "missing key for value"

namespace Value

/-- The name that a key stands for. -/
def keyText? : Value → Except ValueFault String
  | .text s => .ok s
  | .int n => .ok (integerText n)
  | .bool b => .ok (truthText b)
  | other => .error (.keyKind other.kind)

/-- The value of an unsigned integer: beyond the signed range it becomes a double. -/
def ofUnsigned (n : UInt64) : Value :=
  match Decimal.int64? n.toNat with
  | some n => .int n
  | none => .float n.toFloat

end Value

/-- A map that is being built: the entries so far, and the key that waits for its value. -/
structure MapBuilder where
  record : Record Value
  pending : Option String

namespace MapBuilder

def empty : MapBuilder :=
  ⟨[], none⟩

/-- Takes a key, which replaces one that waits. -/
def addKey (builder : MapBuilder) (key : Value) : Except ValueFault MapBuilder :=
  key.keyText?.map fun name => { builder with pending := some name }

/-- Takes a value for the key that waits. -/
def addValue (builder : MapBuilder) (value : Value) : Except ValueFault MapBuilder :=
  match builder.pending with
  | none => .error .missingKey
  | some name => .ok ⟨builder.record.insert name value, none⟩

def add (builder : MapBuilder) : MapPart → Value → Except ValueFault MapBuilder
  | .key => builder.addKey
  | .value => builder.addValue

end MapBuilder

namespace Description

def entryParts : Option Description × Description → List (MapPart × Description)
  | (none, value) => [(.value, value)]
  | (some key, value) => [(.key, key), (.value, value)]

def map (entries : List (Option Description × Description)) : Description :=
  .mapping (entries.flatMap entryParts)

mutual

def build : Description → Except ValueFault Value
  | .truth b => .ok (.bool b)
  | .signed n => .ok (.int n)
  | .unsigned n => .ok (.ofUnsigned n)
  | .wide typeName => .error (.unsupported typeName)
  | .float x => .ok (.float x)
  | .text s => .ok (.text s)
  | .bytes octets => .ok (.list (octets.map fun octet => .int (Int64.ofNat octet.toNat)))
  | .nothing => .ok .nil
  | .wrapped d => build d
  | .sequence items => (buildItems items).map .list
  | .mapping parts => (buildParts .empty parts).map fun builder => .object builder.record
  | .structure fields => (buildFields [] fields).map .object
  | .failing message => .error (.custom message)

def buildItems : List Description → Except ValueFault (List Value)
  | [] => .ok []
  | d :: rest => do
    let item ← build d
    let items ← buildItems rest
    return item :: items

def buildParts (builder : MapBuilder) :
    List (MapPart × Description) → Except ValueFault MapBuilder
  | [] => .ok builder
  | part :: rest => do
    let builder ← buildPart builder part
    buildParts builder rest

def buildPart (builder : MapBuilder) : MapPart × Description → Except ValueFault MapBuilder
  | (part, d) => do
    let value ← build d
    builder.add part value

def buildFields (record : Record Value) :
    List (String × Description) → Except ValueFault (Record Value)
  | [] => .ok record
  | field :: rest => do
    let record ← buildField record field
    buildFields record rest

def buildField (record : Record Value) :
    String × Description → Except ValueFault (Record Value)
  | (name, d) => do
    let value ← build d
    return record.insert name value

end

end Description

mutual

def Value.describe : Value → Description
  | .nil => .nothing
  | .bool b => .truth b
  | .int n => .signed n
  | .float x => .float x
  | .text s => .text s
  | .list items => .sequence (Value.describeItems items)
  | .object fields => .map (Value.describeFields fields)

def Value.describeItems : List Value → List Description
  | [] => []
  | item :: rest => item.describe :: Value.describeItems rest

def Value.describeFields : List (String × Value) → List (Option Description × Description)
  | [] => []
  | (name, value) :: rest => (some (.text name), value.describe) :: Value.describeFields rest

end

end TemplateSite
