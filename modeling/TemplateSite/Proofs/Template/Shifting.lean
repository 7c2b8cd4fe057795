import TemplateSite.Proofs.Template.Position
import TemplateSite.Template.Node

/-!
# Lines further down

A source that starts some lines further down is cut in the same way. Its pieces, the nodes they
give and the faults in them only stand as many lines further down.
-/
namespace TemplateSite

def CompileFault.later (k : Nat) : CompileFault → CompileFault
  | unterminated line delimiter => .unterminated (line + k) delimiter
  | unknownTag line name => .unknownTag (line + k) name
  | unexpectedTag line name => .unexpectedTag (line + k) name
  | unclosed line name => .unclosed (line + k) name
  | invalid line tag fault => .invalid (line + k) tag fault

def Piece.later (k : Nat) : Piece → Piece
  | .text line s => .text (line + k) s
  | .output line dashes body => .output (line + k) dashes body
  | .tag line dashes name args => .tag (line + k) dashes name args
  | .raw line opening body closing => .raw (line + k) opening body closing
  | .comment line opening closing => .comment (line + k) opening closing

def Stop.later (k : Nat) : Stop → Stop
  | .finished => .finished
  | .failed failure => .failed (failure.map (CompileFault.later k))

def RegionEnd.later (k : Nat) : RegionEnd → RegionEnd
  | .found body dashes line rest => .found body dashes (line + k) rest
  | .missing => .missing
  | .unterminated line => .unterminated (line + k)
  | .breakdown => .breakdown

def Cut.later (k : Nat) : Cut → Cut
  | .piece p line rest => .piece (p.later k) (line + k) rest
  | .stop s => .stop (s.later k)

namespace Node

mutual

/-- The node, the given number of lines further down. -/
def later (k : Nat) : Node → Node
  | .mk kind line file children => .mk kind (line + k) file (laterOf k children)

def laterOf (k : Nat) : Option (List Node) → Option (List Node)
  | none => none
  | some nodes => some (laterAll k nodes)

def laterAll (k : Nat) : List Node → List Node
  | [] => []
  | node :: rest => node.later k :: laterAll k rest

end

theorem laterAll_eq_map (k : Nat) (nodes : List Node) : laterAll k nodes = nodes.map (later k) := by
  induction nodes with
  | nil => rw [laterAll, List.map_nil]
  | cons node nodes ih => rw [laterAll, List.map_cons, ih]

theorem laterAll_reverse (k : Nat) (nodes : List Node) :
    laterAll k nodes.reverse = (laterAll k nodes).reverse := by
  rw [laterAll_eq_map, laterAll_eq_map, List.map_reverse]

theorem later_leaf (k : Nat) (kind : NodeKind) (line : Nat) :
    (leaf kind line).later k = leaf kind (line + k) := by
  rw [leaf, later, laterOf, leaf]

theorem later_container (k : Nat) (kind : NodeKind) (line : Nat) (nodes : List Node) :
    (container kind line nodes).later k = container kind (line + k) (laterAll k nodes) := by
  rw [container, later, laterOf, container]

theorem text?_later (k : Nat) (node : Node) : (node.later k).text? = node.text? := by
  rcases node with ⟨kind, line, file, children⟩
  rw [later]
  cases kind <;> rfl

end Node

theorem lineAfter_later (c : Char) (line k : Nat) :
    lineAfter c (line + k) = lineAfter c line + k := by
  rw [lineAfter_eq, lineAfter_eq, Nat.add_right_comm]

theorem RegionEnd.later_cons (k : Nat) (c : Char) (e : RegionEnd) :
    (e.cons c).later k = (e.later k).cons c := by
  cases e <;> rfl

theorem findRegionEnd_later (region : Region) (line k : Nat) (s : List Char) :
    findRegionEnd region (line + k) s = (findRegionEnd region line s).later k := by
  induction s generalizing line with
  | nil => rfl
  | cons c rest ih =>
    have further : (findRegionEnd region (lineAfter c (line + k)) rest).cons c =
        ((findRegionEnd region (lineAfter c line) rest).cons c).later k := by
      rw [lineAfter_later, ih, RegionEnd.later_cons]
    rw [findRegionEnd, findRegionEnd]
    split
    · split
      · rfl
      · split
        · rfl
        · simp only
          split
          · rw [RegionEnd.later, Nat.add_right_comm]
          · exact further
    · exact further

theorem cutRegion_later (region : Region) (start k : Nat) (opening : Dashes) (line : Nat)
    (s : List Char) : cutRegion region (start + k) opening (line + k) s =
      (cutRegion region start opening line s).later k := by
  rw [cutRegion, cutRegion, findRegionEnd_later]
  cases findRegionEnd region line s with
  | found body dashes line' rest => cases region <;> rfl
  | missing => rfl
  | unterminated line' => rfl
  | breakdown => rfl

theorem cutOutput_later (line k : Nat) (s : List Char) :
    cutOutput (line + k) s = (cutOutput line s).later k := by
  rw [cutOutput, cutOutput]
  cases splitAtClosing '\x7d' none s with
  | none => rfl
  | some parts =>
    simp only
    rw [Nat.add_right_comm]
    rfl

theorem cutTag_later (line k : Nat) (s : List Char) :
    cutTag (line + k) s = (cutTag line s).later k := by
  rw [cutTag, cutTag]
  cases splitAtClosing '%' none s with
  | none => rfl
  | some parts =>
    simp only
    rw [Nat.add_right_comm]
    split
    · exact cutRegion_later _ _ _ _ _ _
    · rfl

theorem cut_later (line k : Nat) (s : List Char) : cut (line + k) s = (cut line s).later k := by
  rw [cut, cut]
  simp only
  split
  · rw [cutDelimited.eq_def, cutDelimited.eq_def]
    split
    · split
      · exact cutOutput_later _ _ _
      · exact cutTag_later _ _ _
    · rfl
  · rw [Nat.add_right_comm]
    rfl

theorem pieces_later (line k : Nat) (s : List Char) : pieces (line + k) s =
    ((pieces line s).1.map (Piece.later k), (pieces line s).2.later k) := by
  induction line, s using pieces.induct with
  | case1 line s stop hc =>
    have hk : cut (line + k) s = .stop (stop.later k) := by
      rw [cut_later, hc]
      rfl
    rw [pieces_of_stop hc, pieces_of_stop hk, List.map_nil]
  | case2 line s p line' rest hc more stop hm ih =>
    have hk : cut (line + k) s = .piece (p.later k) (line' + k) rest := by
      rw [cut_later, hc]
      rfl
    rw [pieces_of_piece hc, pieces_of_piece hk, ih, List.map_cons]

end TemplateSite
