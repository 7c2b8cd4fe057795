import TemplateSite.Data.Description

/-!
# The shapes of data

Data announces itself in more shapes than descriptions tell apart: integers of five widths with and
without a sign, doubles and floats of half their size, single characters, units, wrappers, tuples,
and variants of enumerations with and without data. A shape is described by what it comes to as a
value. The names of structures and wrappers do not show, and of a variant only one without data
shows its name.
-/
namespace TemplateSite

/-- A shape of data, whose parts are described already. -/
inductive Shape where
  | bool (b : Bool)
  | int8 (n : Int8)
  | int16 (n : Int16)
  | int32 (n : Int32)
  | int64 (n : Int64)
  | int128
  | uint8 (n : UInt8)
  | uint16 (n : UInt16)
  | uint32 (n : UInt32)
  | uint64 (n : UInt64)
  | uint128
  | float32 (x : Float32)
  | float64 (x : Float)
  | char (c : Char)
  | text (s : String)
  | bytes (octets : List UInt8)
  /-- An optional part that is not there. -/
  | absent
  /-- An optional part that is there. -/
  | present (d : Description)
  | unit
  | unitStructure
  | unitVariant (variant : String)
  | newtypeStructure (d : Description)
  | newtypeVariant (d : Description)
  | sequence (items : List Description)
  | tuple (items : List Description)
  | tupleStructure (items : List Description)
  | tupleVariant (items : List Description)
  | map (parts : List (MapPart × Description))
  | structure (fields : List (String × Description))
  | structureVariant (fields : List (String × Description))
  | failing (message : String)

namespace Shape

def describe : Shape → Description
  | .bool b => .truth b
  | .int8 n => .signed n.toInt64
  | .int16 n => .signed n.toInt64
  | .int32 n => .signed n.toInt64
  | .int64 n => .signed n
  | .int128 => .wide "i128"
  | .uint8 n => .unsigned n.toUInt64
  | .uint16 n => .unsigned n.toUInt64
  | .uint32 n => .unsigned n.toUInt64
  | .uint64 n => .unsigned n
  | .uint128 => .wide "u128"
  | .float32 x => .float x.toFloat
  | .float64 x => .float x
  | .char c => .text (String.singleton c)
  | .text s => .text s
  | .bytes octets => .bytes octets
  | .absent | .unit | .unitStructure => .nothing
  | .present d | .newtypeStructure d | .newtypeVariant d => .wrapped d
  | .unitVariant variant => .text variant
  | .sequence items | .tuple items | .tupleStructure items | .tupleVariant items =>
    .sequence items
  | .map parts => .mapping parts
  | .structure fields | .structureVariant fields => .structure fields
  | .failing message => .failing message

end Shape
end TemplateSite
