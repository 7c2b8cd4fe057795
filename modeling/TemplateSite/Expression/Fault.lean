import TemplateSite.Expression.Token

/-!
# What can be wrong with the text of a tag
-/
namespace TemplateSite

/-- Why the text of a tag is refused. -/
inductive SyntaxFault where
  | unterminatedString
  | unexpectedCharacter (c : Char)
  | invalidNumber (text : String)
  | expectedToken (wanted : Token) (next : Option Token)
  | expectedIdentifier (found : Option Token)
  | expectedValue (found : Option Token)
  | trailing (token : Token)
  | missingCondition
  | expectedIn (next : Option Token)
  | unknownLoopParameter (name : String)
  | missingFileName
  | unterminatedFileName
  | emptyTag
  | invalidBlockName (args : String)
  | layoutNotAtTop
  | layoutArguments
deriving DecidableEq

def SyntaxFault.message : SyntaxFault → String
  | .unterminatedString => "unterminated string literal"
  | .unexpectedCharacter c => "unexpected character '" ++ String.singleton c ++ "'"
  | .invalidNumber text => "invalid number '" ++ text ++ "'"
  | .expectedToken wanted next =>
    "expected " ++ wanted.shown ++ ", found " ++ Token.describeNext next
  | .expectedIdentifier found => "expected identifier, found " ++ Token.shownFound found
  | .expectedValue found => "expected a value, found " ++ Token.shownFound found
  | .trailing token => "unexpected trailing " ++ token.shown
  | .missingCondition => "missing condition"
  | .expectedIn next => "expected 'in', found " ++ Token.describeNext next
  | .unknownLoopParameter name => "unknown for parameter '" ++ name ++ "'"
  | .missingFileName => "missing file name"
  | .unterminatedFileName => "unterminated file name"
  | .emptyTag => "empty tag"
  | .invalidBlockName args => "invalid block name '" ++ args ++ "'"
  | .layoutNotAtTop => "layout must appear at the top level"
  | .layoutArguments => "layout takes no arguments"

end TemplateSite
