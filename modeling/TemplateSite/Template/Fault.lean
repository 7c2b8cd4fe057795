import TemplateSite.Expression.Fault

/-!
# Refused templates

Compiling ends with a tree, a fault in the source, or a breakdown, which is no judgement of the
source: it happens on one malformed delimiter in a region that is skipped.
-/
namespace TemplateSite

/-- How work ends that gives no result. -/
inductive Failure (ε : Type) where
  | fault (e : ε)
  | breakdown
deriving DecidableEq

namespace Failure
variable {ε δ : Type}

/-- The same failure with another account of the fault. -/
def map (f : ε → δ) : Failure ε → Failure δ
  | .fault e => .fault (f e)
  | .breakdown => .breakdown

@[simp] theorem map_fault (f : ε → δ) (e : ε) : (Failure.fault e).map f = .fault (f e) := rfl

@[simp] theorem map_breakdown (f : ε → δ) : (Failure.breakdown : Failure ε).map f = .breakdown :=
  rfl

end Failure

/-- The two opening delimiters. -/
inductive Delimiter where
  | output
  | tag
deriving DecidableEq, Repr

def Delimiter.opening : Delimiter → String
  | .output => "\x7b\x7b"
  | .tag => "\x7b%"

/-- Why a source does not compile. -/
inductive CompileFault where
  | unterminated (line : Nat) (delimiter : Delimiter)
  | unknownTag (line : Nat) (name : String)
  | unexpectedTag (line : Nat) (name : String)
  | unclosed (line : Nat) (name : String)
  | invalid (line : Nat) (tag : String) (fault : SyntaxFault)
deriving DecidableEq

namespace CompileFault

def line : CompileFault → Nat
  | unterminated line _ => line
  | unknownTag line _ => line
  | unexpectedTag line _ => line
  | unclosed line _ => line
  | invalid line _ _ => line

/-- What a fault is, without its line. -/
def account : CompileFault → String
  | unterminated _ delimiter => "unterminated " ++ delimiter.opening
  | unknownTag _ name => "unknown tag '" ++ name ++ "'"
  | unexpectedTag _ name => "unexpected '" ++ name ++ "'"
  | unclosed _ name => "tag '" ++ name ++ "' was never closed"
  | invalid _ tag fault => "invalid syntax in '" ++ tag ++ "': " ++ fault.message

def message (fault : CompileFault) : String :=
  "line " ++ toString fault.line ++ ": " ++ fault.account

end CompileFault
end TemplateSite
