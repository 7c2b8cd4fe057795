import TemplateSite.Data.Value
import TemplateSite.Decimal.Layout
import TemplateSite.Text.Quoted

/-!
# Written values

Output shows a value as plain text: nil and objects show nothing, and a list shows its items without
separators. Messages show a value with its constructor, texts being quoted.
-/
namespace TemplateSite.Value

/-- Output writes doubles positionally, whole numbers with all their digits. -/
def outputStyle : Decimal.Style :=
  ⟨none, true⟩

/-- Messages write a double with an exponent below `1e-4` and from `1e16` on. -/
def messageStyle : Decimal.Style :=
  ⟨some (-4, 16), false⟩

def integerText (n : Int64) : String :=
  toString n.toInt

def truthText (b : Bool) : String :=
  if b then "true" else "false"

mutual

/-- The text that output shows for a value. -/
def display : Value → String
  | .nil => ""
  | .bool b => truthText b
  | .int n => integerText n
  | .float x => outputStyle.write x
  | .text s => s
  | .list items => String.join (displayItems items)
  | .object _ => ""

def displayItems : List Value → List String
  | [] => []
  | item :: rest => display item :: displayItems rest

end

mutual

/-- The form in which messages show a value. -/
def shown : Value → String
  | .nil => "Nil"
  | .bool b => "Bool(" ++ truthText b ++ ")"
  | .int n => "Int(" ++ integerText n ++ ")"
  | .float x => "Float(" ++ messageStyle.write x ++ ")"
  | .text s => "Str(" ++ Text.quoted s ++ ")"
  | .list items => "List([" ++ ", ".intercalate (shownItems items) ++ "])"
  | .object fields => "Map(\x7b" ++ ", ".intercalate (shownFields fields) ++ "\x7d)"

def shownItems : List Value → List String
  | [] => []
  | item :: rest => shown item :: shownItems rest

/-- The forms of fields, a name before its value. -/
def shownFields : List (String × Value) → List String
  | [] => []
  | (name, value) :: rest => (Text.quoted name ++ ": " ++ shown value) :: shownFields rest

end

end TemplateSite.Value
