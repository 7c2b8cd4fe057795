import TemplateSite.Proofs.Template.Regular

/-!
# What holds everywhere in a tree

A property of what a node does and of the file that it names can hold at every node of a tree. The
references in a compiled tree are all written as they can stand in a tag.
-/
namespace TemplateSite
namespace Node

variable {P Q S : NodeKind → Option String → Prop}

mutual

/-- The property holds of the node and of every node inside it. -/
def Everywhere (P : NodeKind → Option String → Prop) : Node → Prop
  | .mk kind _ file children => P kind file ∧ everywhereOf P children

def everywhereOf (P : NodeKind → Option String → Prop) : Option (List Node) → Prop
  | none => True
  | some nodes => everywhereAll P nodes

/-- The property holds everywhere in the nodes. -/
def everywhereAll (P : NodeKind → Option String → Prop) : List Node → Prop
  | [] => True
  | node :: rest => node.Everywhere P ∧ everywhereAll P rest

end

theorem everywhereAll_iff {nodes : List Node} :
    everywhereAll P nodes ↔ ∀ node ∈ nodes, node.Everywhere P := by
  induction nodes with
  | nil => simp [everywhereAll]
  | cons node nodes ih => simp [everywhereAll, ih]

section Decidable

variable (P) [∀ kind file, Decidable (P kind file)]

mutual

/-- Whether a property holds everywhere can be decided where it can be decided of one node. -/
def decideEverywhere : (node : Node) → Decidable (node.Everywhere P)
  | .mk kind _ file children =>
    have := decideEverywhereOf children
    decidable_of_iff (P kind file ∧ everywhereOf P children) (by rw [Everywhere])

def decideEverywhereOf : (children : Option (List Node)) → Decidable (everywhereOf P children)
  | none => decidable_of_iff True (by rw [everywhereOf])
  | some nodes =>
    have := decideEverywhereAll nodes
    decidable_of_iff (everywhereAll P nodes) (by rw [everywhereOf])

def decideEverywhereAll : (nodes : List Node) → Decidable (everywhereAll P nodes)
  | [] => decidable_of_iff True (by rw [everywhereAll])
  | node :: rest =>
    have := decideEverywhere node
    have := decideEverywhereAll rest
    decidable_of_iff (node.Everywhere P ∧ everywhereAll P rest) (by rw [everywhereAll])

end

instance (nodes : List Node) : Decidable (everywhereAll P nodes) :=
  decideEverywhereAll P nodes

end Decidable

mutual

theorem Everywhere.both (h : ∀ kind file, P kind file → Q kind file → S kind file) :
    ∀ {node : Node}, node.Everywhere P → node.Everywhere Q → node.Everywhere S
  | .mk kind line file children => by
    intro hp hq
    rw [Everywhere] at hp hq ⊢
    exact ⟨h kind file hp.1 hq.1, everywhereOf_both h hp.2 hq.2⟩

theorem everywhereOf_both (h : ∀ kind file, P kind file → Q kind file → S kind file) :
    ∀ {children : Option (List Node)}, everywhereOf P children → everywhereOf Q children →
      everywhereOf S children
  | none => by
    intro _ _
    rw [everywhereOf]
    trivial
  | some nodes => by
    intro hp hq
    rw [everywhereOf] at hp hq ⊢
    exact everywhereAll_both h hp hq

theorem everywhereAll_both (h : ∀ kind file, P kind file → Q kind file → S kind file) :
    ∀ {nodes : List Node}, everywhereAll P nodes → everywhereAll Q nodes → everywhereAll S nodes
  | [] => by
    intro _ _
    rw [everywhereAll]
    trivial
  | node :: nodes => by
    intro hp hq
    rw [everywhereAll] at hp hq ⊢
    exact ⟨Everywhere.both h hp.1 hq.1, everywhereAll_both h hp.2 hq.2⟩

end

mutual

theorem everywhere_of_forall (h : ∀ kind file, P kind file) : ∀ node : Node, node.Everywhere P
  | .mk kind line file children => by
    rw [Everywhere]
    exact ⟨h kind file, everywhereOf_of_forall h children⟩

theorem everywhereOf_of_forall (h : ∀ kind file, P kind file) :
    ∀ children : Option (List Node), everywhereOf P children
  | none => by
    rw [everywhereOf]
    trivial
  | some nodes => by
    rw [everywhereOf]
    exact everywhereAll_of_forall h nodes

theorem everywhereAll_of_forall (h : ∀ kind file, P kind file) :
    ∀ nodes : List Node, everywhereAll P nodes
  | [] => by
    rw [everywhereAll]
    trivial
  | node :: nodes => by
    rw [everywhereAll]
    exact ⟨everywhere_of_forall h node, everywhereAll_of_forall h nodes⟩

end

section Gathering

variable {α : Type} (f : NodeKind → Option String → List α)

mutual

/-- What a node and the nodes inside it give, each before what is inside it. -/
def gather : Node → List α
  | .mk kind _ file children => f kind file ++ gatherOf children

def gatherOf : Option (List Node) → List α
  | none => []
  | some nodes => gatherAll nodes

/-- What nodes and the nodes inside them give, in order. -/
def gatherAll : List Node → List α
  | [] => []
  | node :: rest => node.gather ++ gatherAll rest

end

variable {f} {R : α → Prop}

mutual

theorem everywhere_of_gather : ∀ {node : Node}, (∀ x ∈ node.gather f, R x) →
    node.Everywhere fun kind file => ∀ x ∈ f kind file, R x
  | .mk kind line file children => by
    intro h
    rw [gather, List.forall_mem_append] at h
    rw [Everywhere]
    exact ⟨h.1, everywhereOf_of_gather h.2⟩

theorem everywhereOf_of_gather : ∀ {children : Option (List Node)},
    (∀ x ∈ gatherOf f children, R x) →
      everywhereOf (fun kind file => ∀ x ∈ f kind file, R x) children
  | none => by
    intro _
    rw [everywhereOf]
    trivial
  | some nodes => by
    intro h
    rw [gatherOf] at h
    rw [everywhereOf]
    exact everywhereAll_of_gather h

/-- What holds of all that the nodes give holds, at every node, of what that node gives. -/
theorem everywhereAll_of_gather : ∀ {nodes : List Node}, (∀ x ∈ gatherAll f nodes, R x) →
    everywhereAll (fun kind file => ∀ x ∈ f kind file, R x) nodes
  | [] => by
    intro _
    rw [everywhereAll]
    trivial
  | node :: rest => by
    intro h
    rw [gatherAll, List.forall_mem_append] at h
    rw [everywhereAll]
    exact ⟨everywhere_of_gather h.1, everywhereAll_of_gather h.2⟩

end

end Gathering

/-- A file that a node names is named by a reference as it can be written. -/
def NamesWritten (_ : NodeKind) (file : Option String) : Prop :=
  ∀ raw ∈ file, Reference.Written raw.toList

theorem everywhere_container {kind : NodeKind} {line : Nat} {nodes : List Node}
    (hk : P kind none) (h : ∀ node ∈ nodes, node.Everywhere P) :
    (container kind line nodes).Everywhere P := by
  rw [container, Everywhere, everywhereOf]
  exact ⟨hk, everywhereAll_iff.mpr h⟩

theorem everywhere_leaf {kind : NodeKind} {line : Nat} (hk : P kind none) :
    (leaf kind line).Everywhere P := by
  rw [leaf, Everywhere, everywhereOf]
  exact ⟨hk, trivial⟩

theorem Regular.written {node : Node} (h : node.Regular) : node.Everywhere NamesWritten := by
  have nothing : ∀ kind, NamesWritten kind none := by
    intro kind raw hr
    cases hr
  induction h with
  | text line nonempty => exact everywhere_leaf (nothing _)
  | output o line => exact everywhere_leaf (nothing _)
  | assign name value line => exact everywhere_leaf (nothing _)
  | «include» args line written =>
    rw [Everywhere, everywhereOf]
    refine ⟨?_, trivial⟩
    intro raw hr
    cases hr
    exact written
  | block line unbroken apart inside ih => exact everywhere_container (nothing _) ih
  | loop spec line apart inside ih => exact everywhere_container (nothing _) ih
  | conditional line order shape apart inside ih =>
    apply everywhere_container (nothing _)
    intro branch hb
    rcases shape branch hb with ⟨test, negate, start, nodes, rfl⟩
    exact everywhere_container (nothing _) (ih _ hb)

theorem RegularAll.written {nodes : List Node} (h : RegularAll nodes) :
    everywhereAll NamesWritten nodes :=
  everywhereAll_iff.mpr fun node hn => (h.each node hn).written

theorem RegularTemplate.written {nodes : List Node} (h : RegularTemplate nodes) :
    everywhereAll NamesWritten nodes := by
  cases h with
  | plain regular => exact regular.written
  | laidOut line front written inside =>
    apply everywhereAll_iff.mpr
    intro node hn
    rcases List.mem_append.mp hn with hf | hl
    · exact everywhereAll_iff.mp front.written node hf
    · rw [List.mem_singleton.mp hl, Everywhere, everywhereOf]
      refine ⟨?_, inside.written⟩
      intro raw hr
      cases hr
      exact written

end Node
end TemplateSite
