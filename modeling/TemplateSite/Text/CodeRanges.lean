/-!
# Sets of code points

A set of characters is given by ascending ranges of code points, both ends included.
-/
namespace TemplateSite.Text

/-- Ranges of code points, each with its first and its last member. -/
abbrev CodeRanges := List (Nat × Nat)

namespace CodeRanges

def contains (ranges : CodeRanges) (code : Nat) : Bool :=
  ranges.any fun range => range.1 ≤ code && code ≤ range.2

end CodeRanges
end TemplateSite.Text
