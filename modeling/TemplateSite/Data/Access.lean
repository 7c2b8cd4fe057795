import TemplateSite.Data.Value

/-!
# Reading parts of values

An object is read by name and a list by position, a negative position counting from the end. Sizes
and the two ends of a list are readable by name as well; a field of that name comes first.
-/
namespace TemplateSite.Value

/-- The item at a position, counted from the end when it is negative. -/
def itemAt? (items : List Value) (position : Int64) : Option Value :=
  let index := position.toInt
  let index := if index < 0 then items.length + index else index
  if index < 0 then none else items[index.toNat]?

def get? : Value → Value → Option Value
  | .object fields, .text name => Record.get? name fields
  | .list items, .int position => itemAt? items position
  | _, _ => none

def ofCount (n : Nat) : Value :=
  .int (Int64.ofNat n)

/-- A field, or what the value itself offers under a name. -/
def property? (value : Value) (name : String) : Option Value :=
  match value.get? (.text name) with
  | some field => some field
  | none =>
    match value, name with
    | .list items, "size" => some (ofCount items.length)
    | .text s, "size" => some (ofCount s.length)
    | .object fields, "size" => some (ofCount fields.length)
    | .list items, "first" => items.head?
    | .list items, "last" => items.getLast?
    | _, _ => none

/-- One step of a variable path: the part under the key, or else the property it names. -/
def step? (value key : Value) : Option Value :=
  match value.get? key with
  | some part => some part
  | none =>
    match key with
    | .text name => value.property? name
    | _ => none

end TemplateSite.Value
