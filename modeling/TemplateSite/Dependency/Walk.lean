import TemplateSite.Options
import TemplateSite.Reference
import TemplateSite.Template.Node

/-!
# The files that a template names

Dependencies are the resolved file references of a tree, each node before its children and these
before the next sibling, repeated as often as they occur. The walk keeps a stack of the siblings
that are still to be visited, so the depth of the tree does not matter; the recursion on the tree
says what it computes.
-/
namespace TemplateSite

def Options.resolve (options : Options) (raw : String) : Path :=
  Reference.resolve raw options.root options.extname

def Options.pathsOf (options : Options) (file : Option String) : List Path :=
  (file.map options.resolve).toList

mutual

/-- The dependencies of a node by recursion on the tree. -/
def Node.references (options : Options) : Node → List Path
  | .mk _ _ file children => options.pathsOf file ++ referencesOf options children

def Node.referencesOf (options : Options) : Option (List Node) → List Path
  | none => []
  | some nodes => referencesAll options nodes

def Node.referencesAll (options : Options) : List Node → List Path
  | [] => []
  | node :: rest => node.references options ++ referencesAll options rest

end

/-- The stack after a node: its children, if it has any, come before its siblings. -/
def pushChildren (children : Option (List Node)) (stack : List (List Node)) : List (List Node) :=
  match children with
  | none => stack
  | some nodes => nodes :: stack

/-- The dependencies of the nodes on a stack, the top of which is visited first. -/
def walk (options : Options) : List (List Node) → List Path
  | [] => []
  | [] :: stack => walk options stack
  | (.mk _ _ file children :: siblings) :: stack =>
    options.pathsOf file ++ walk options (pushChildren children (siblings :: stack))
termination_by stack => sizeOf stack
decreasing_by
  · simp only [List.cons.sizeOf_spec, List.nil.sizeOf_spec]
    omega
  · cases children with
    | none =>
      simp only [pushChildren, List.cons.sizeOf_spec]
      omega
    | some nodes =>
      simp only [pushChildren, List.cons.sizeOf_spec, Node.mk.sizeOf_spec, Option.some.sizeOf_spec]
      omega

def dependencies (options : Options) (nodes : List Node) : List Path :=
  walk options [nodes]

end TemplateSite
