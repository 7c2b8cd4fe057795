/-!
# Paths

A path is kept and printed as it is spelled. Two spellings name the same place when they have the
same components: repeated and trailing slashes do not count, nor does a single dot anywhere but at
the front of a relative path.
-/
namespace TemplateSite

/-- A path as it is spelled. -/
structure Path where
  text : String
deriving DecidableEq, Repr, Inhabited

namespace Path

/-- A part of a path. -/
inductive Component where
  /-- The slash at the front of an absolute path. -/
  | root
  /-- The dot at the front of a relative path. -/
  | here
  /-- Two dots. -/
  | parent
  | name (s : List Char)
deriving DecidableEq, Repr

def pieces : List Char → List (List Char)
  | [] => [[]]
  | '/' :: rest => [] :: pieces rest
  | c :: rest =>
    match pieces rest with
    | [] => [[c]]
    | piece :: more => (c :: piece) :: more

/-- The component that a piece after the front spells; empty pieces and single dots spell none. -/
def component? (piece : List Char) : Option Component :=
  if piece.isEmpty || piece == ['.'] then none
  else if piece == ['.', '.'] then some .parent
  else some (.name piece)

def componentsOf (s : List Char) : List Component :=
  let rest := (pieces s).filterMap component?
  if s.head? == some '/' then .root :: rest
  else if (pieces s).head? == some ['.'] then .here :: rest
  else rest

def components (p : Path) : List Component :=
  componentsOf p.text.toList

/-- Whether two spellings name the same place. -/
def same (p q : Path) : Bool :=
  p.components == q.components

/-- A relative path below a directory; an absolute one replaces it. -/
def join (dir : Path) (s : String) : Path :=
  if s.toList.head? == some '/' || dir.text.isEmpty then ⟨s⟩
  else if dir.text.toList.getLast? == some '/' then ⟨dir.text ++ s⟩
  else ⟨dir.text ++ "/" ++ s⟩

theorem same_iff {p q : Path} : p.same q = true ↔ p.components = q.components := by
  simp [same]

end Path
end TemplateSite
