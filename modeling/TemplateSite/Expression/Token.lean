import TemplateSite.Data.Comparison

/-!
# Tokens

The words, literals and marks that the text of a tag is made of, and how messages show them.
-/
namespace TemplateSite

inductive Mark where
  | dot
  | dots
  | openBracket
  | closeBracket
  | openParen
  | closeParen
  | pipe
  | colon
  | comma
  | assign
deriving DecidableEq, Repr

inductive Token where
  | word (name : String)
  | text (s : String)
  | int (n : Int64)
  | float (x : Float)
  | mark (m : Mark)
  | comparison (op : Comparison)
deriving DecidableEq

def Mark.name : Mark → String
  | .dot => "Dot"
  | .dots => "DotDot"
  | .openBracket => "LBracket"
  | .closeBracket => "RBracket"
  | .openParen => "LParen"
  | .closeParen => "RParen"
  | .pipe => "Pipe"
  | .colon => "Colon"
  | .comma => "Comma"
  | .assign => "Assign"

namespace Token

def shown : Token → String
  | .word name => "Ident(" ++ Text.quoted name ++ ")"
  | .text s => "Str(" ++ Text.quoted s ++ ")"
  | .int n => "Int(" ++ Value.integerText n ++ ")"
  | .float x => "Float(" ++ Value.messageStyle.write x ++ ")"
  | .mark m => m.name
  | .comparison op => "Cmp(" ++ op.name ++ ")"

/-- What was found in place of a token, as messages show it. -/
def shownFound : Option Token → String
  | none => "None"
  | some token => "Some(" ++ token.shown ++ ")"

def describeNext : Option Token → String
  | none => "end of input"
  | some token => token.shown

end Token
end TemplateSite
