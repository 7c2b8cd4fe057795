import TemplateSite.Template.Builder
import TemplateSite.Template.Pieces

/-!
# Compiling templates

A template compiles to a tree by adding its pieces, in order, to an empty builder. The first piece
that is refused decides; a source that cannot be cut to its end fails only after all pieces before
that place were accepted.
-/
namespace TemplateSite

def Builder.addAll (b : Builder) (pieces : List Piece) : Except CompileFault Builder :=
  pieces.foldlM Builder.add b

/-- The tree of a builder after the last piece, unless the cutting failed. -/
def Builder.stop (b : Builder) : Stop → Except (Failure CompileFault) (List Node)
  | .finished => b.finish.mapError .fault
  | .failed failure => .error failure

def compileChars (s : List Char) : Except (Failure CompileFault) (List Node) := do
  let (pieces, stop) := pieces 1 s
  let b ← (Builder.empty.addAll pieces).mapError .fault
  b.stop stop

def compile (source : String) : Except (Failure CompileFault) (List Node) :=
  compileChars source.toList

end TemplateSite
