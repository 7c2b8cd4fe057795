import TemplateSite.Expression.Lexer
import TemplateSite.Expression.Term

/-!
# Reading expressions

Expressions are read from the tokens of a tag. The connectives `and` and `or` group to the right and
take comparisons; a comparison takes two operands; an operand is a literal, a variable path or a
range of two operands, and a path may hold whole expressions between brackets. Each reader answers
with what it read and the tokens that are left.

The readers that call each other take a bound on the depth of the calls. Two calls at most pass
between one token taken and the next, so twice the number of tokens is enough.
-/
namespace TemplateSite

namespace Reading

def token (wanted : Token) (s : List Token) : Except SyntaxFault (List Token) :=
  match s with
  | t :: rest => if t = wanted then .ok rest else .error (.expectedToken wanted (some t))
  | [] => .error (.expectedToken wanted none)

def word (s : List Token) : Except SyntaxFault (String × List Token) :=
  match s with
  | .word name :: rest => .ok (name, rest)
  | _ => .error (.expectedIdentifier s.head?)

/-- Drops the given mark if it comes first. -/
def skip (m : Mark) (s : List Token) : List Token :=
  match s with
  | .mark n :: rest => if n = m then rest else s
  | _ => s

def comparison? (s : List Token) : Option (Comparison × List Token) :=
  match s with
  | .comparison op :: rest => some (op, rest)
  | .word "contains" :: rest => some (.contains, rest)
  | _ => none

def comparisonOf (operand : List Token → Except SyntaxFault (Expr × List Token))
    (s : List Token) : Except SyntaxFault (Expr × List Token) := do
  let (left, rest) ← operand s
  match comparison? rest with
  | none => return (left, rest)
  | some (op, rest) =>
    let (right, rest) ← operand rest
    return (.compare op left right, rest)

def literalWord? (name : String) : Option Value :=
  match name with
  | "true" => some (.bool true)
  | "false" => some (.bool false)
  | "nil" => some .nil
  | "null" => some .nil
  | _ => none

mutual

def logicalWithin : Nat → List Token → Except SyntaxFault (Expr × List Token)
  | 0, s => .error (.expectedValue s.head?)
  | n + 1, s => do
    let (left, rest) ← comparisonOf (operandWithin n) s
    match rest with
    | .word "and" :: rest =>
      let (right, rest) ← logicalWithin n rest
      return (.and left right, rest)
    | .word "or" :: rest =>
      let (right, rest) ← logicalWithin n rest
      return (.or left right, rest)
    | _ => return (left, rest)

def operandWithin : Nat → List Token → Except SyntaxFault (Expr × List Token)
  | 0, s => .error (.expectedValue s.head?)
  | n + 1, s =>
    match s with
    | .text t :: rest => .ok (.literal (.text t), rest)
    | .int i :: rest => .ok (.literal (.int i), rest)
    | .float x :: rest => .ok (.literal (.float x), rest)
    | .mark .openParen :: rest => do
      let (first, rest) ← operandWithin n rest
      let rest ← token (.mark .dots) rest
      let (last, rest) ← operandWithin n rest
      let rest ← token (.mark .closeParen) rest
      return (.range first last, rest)
    | .word name :: rest =>
      match literalWord? name with
      | some v => .ok (.literal v, rest)
      | none => do
        let (segments, rest) ← segmentsWithin n rest
        return (.path name segments, rest)
    | _ => .error (.expectedValue s.head?)

def segmentsWithin : Nat → List Token → Except SyntaxFault (List Segment × List Token)
  | 0, s => .ok ([], s)
  | n + 1, s =>
    match s with
    | .mark .dot :: rest => do
      let (name, rest) ← word rest
      let (segments, rest) ← segmentsWithin n rest
      return (.key name :: segments, rest)
    | .mark .openBracket :: rest => do
      let (e, rest) ← logicalWithin n rest
      let rest ← token (.mark .closeBracket) rest
      let (segments, rest) ← segmentsWithin n rest
      return (.index e :: segments, rest)
    | _ => .ok ([], s)

end

/-- A bound on the depth of calls that suffices for these tokens. -/
def depthBound (s : List Token) : Nat :=
  2 * s.length + 2

def logical (s : List Token) : Except SyntaxFault (Expr × List Token) :=
  logicalWithin (depthBound s) s

def operand (s : List Token) : Except SyntaxFault (Expr × List Token) :=
  operandWithin (depthBound s) s

def segments (s : List Token) : Except SyntaxFault (List Segment × List Token) :=
  segmentsWithin (depthBound s) s

/-- Reads the arguments of a filter, separated by commas; there are at most `n + 1`. -/
def filterArgs : Nat → List Token → Except SyntaxFault (List Expr × List Token)
  | 0, s => .error (.expectedValue s.head?)
  | n + 1, s => do
    let (arg, rest) ← operand s
    match rest with
    | .mark .comma :: rest =>
      let (args, rest) ← filterArgs n rest
      return (arg :: args, rest)
    | _ => return ([arg], rest)

/-- Reads filters, each after a bar; there are at most `n`. -/
def filters : Nat → List Token → Except SyntaxFault (List FilterCall × List Token)
  | 0, s => .ok ([], s)
  | n + 1, s =>
    match s with
    | .mark .pipe :: rest => do
      let (name, rest) ← word rest
      match rest with
      | .mark .colon :: rest =>
        let (args, rest) ← filterArgs (rest.length + 1) rest
        let (more, rest) ← filters n rest
        return (⟨name, args⟩ :: more, rest)
      | _ =>
        let (more, rest) ← filters n rest
        return (⟨name, []⟩ :: more, rest)
    | _ => .ok ([], s)

def output (s : List Token) : Except SyntaxFault (Output × List Token) := do
  let (expr, rest) ← logical s
  let (calls, rest) ← filters rest.length rest
  return (⟨expr, calls⟩, rest)

/-- What was read, if no token is left. -/
def whole {α : Type} (reading : Except SyntaxFault (α × List Token)) : Except SyntaxFault α := do
  let (found, rest) ← reading
  match rest with
  | [] => return found
  | t :: _ => throw (.trailing t)

/-- Reads the parameters of a loop into its head; a comma may stand before each. -/
def loopParameters : Nat → LoopSpec → List Token → Except SyntaxFault LoopSpec
  | _, spec, [] => .ok spec
  | 0, spec, _ => .ok spec
  | n + 1, spec, s => do
    let (name, rest) ← word (skip .comma s)
    match name with
    | "reversed" => loopParameters n { spec with reversed := true } rest
    | "limit" =>
      let rest ← token (.mark .colon) rest
      let (e, rest) ← operand rest
      loopParameters n { spec with limit := some e } rest
    | "offset" =>
      let rest ← token (.mark .colon) rest
      let (e, rest) ← operand rest
      loopParameters n { spec with offset := some e } rest
    | other => throw (.unknownLoopParameter other)

/-- Reads the named arguments of an include; a comma may stand before each. -/
def arguments : Nat → List Token → Except SyntaxFault (List Argument)
  | _, [] => .ok []
  | 0, _ => .ok []
  | n + 1, s => do
    let (key, rest) ← word (skip .comma s)
    let rest ← token (.mark .colon) rest
    let (e, rest) ← logical rest
    let more ← arguments n rest
    return (key, e) :: more

end Reading

open Text

def Output.parse (s : List Char) : Except SyntaxFault Output := do
  let tokens ← Token.tokens s
  Reading.whole (Reading.output tokens)

def Expr.parseCondition (s : List Char) : Except SyntaxFault Expr := do
  match ← Token.tokens s with
  | [] => throw .missingCondition
  | tokens => Reading.whole (Reading.logical tokens)

def Expr.parsePath (s : List Char) : Except SyntaxFault Expr := do
  let tokens ← Token.tokens s
  let (root, rest) ← Reading.word tokens
  let segments ← Reading.whole (Reading.segments rest)
  return .path root segments

def Output.parseAssignment (s : List Char) : Except SyntaxFault (String × Output) := do
  let tokens ← Token.tokens s
  let (name, rest) ← Reading.word tokens
  let rest ← Reading.token (.mark .assign) rest
  let value ← Reading.whole (Reading.output rest)
  return (name, value)

def LoopSpec.parse (s : List Char) : Except SyntaxFault LoopSpec := do
  let tokens ← Token.tokens s
  let (item, rest) ← Reading.word tokens
  match rest with
  | .word "in" :: rest =>
    let (collection, rest) ← Reading.operand rest
    Reading.loopParameters rest.length ⟨item, collection, none, none, false⟩ rest
  | _ => throw (.expectedIn rest.head?)

/-- A file reference as it is written, and its named arguments. -/
structure FileRef where
  raw : String
  args : List Argument

/-- Splits a written file reference off the front of a trimmed text: a quoted name with its quotes,
or everything up to a blank or a comma. -/
def FileRef.split (s : List Char) : Except SyntaxFault (List Char × List Char) :=
  match s with
  | [] => .error .missingFileName
  | c :: rest =>
    if Reference.isQuote c then
      match rest.dropWhile (· != c) with
      | [] => .error .unterminatedFileName
      | _ :: after => .ok (c :: rest.takeWhile (· != c) ++ [c], after)
    else
      let bare (d : Char) := !(isBlank d || d == ',')
      .ok (s.takeWhile bare, s.dropWhile bare)

def FileRef.parse (s : List Char) : Except SyntaxFault FileRef := do
  let (raw, rest) ← FileRef.split (trim s)
  let tokens ← Token.tokens rest
  let args ← Reading.arguments tokens.length tokens
  return ⟨String.ofList raw, args⟩

end TemplateSite
