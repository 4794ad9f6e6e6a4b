import ComponentOutline.Syntax.Node

/-!
# Defects of a tree

A tree is defective where the grammar could not read the source: at a node of kind
`ERROR` and at a node that it put in.  The search for the first defect follows only
those children that have one below them.
-/

namespace ComponentOutline
namespace Node

/-- Whether the grammar failed right at this node. -/
def isDefect (node : Node) : Bool :=
  node.kind == "ERROR" || node.missing

mutual

/-- Whether the grammar failed at this node or below it. -/
def hasDefect : Node → Bool
  | .mk label children => (Node.mk label children).isDefect || anyDefect children

/-- Whether the grammar failed anywhere in a forest. -/
def anyDefect : List Node → Bool
  | [] => false
  | node :: rest => node.hasDefect || anyDefect rest

end

/-- The children in which the search goes on. -/
def defectiveChildren (node : Node) : List Node :=
  node.children.filter fun child => child.hasDefect || child.missing

theorem sizeAll_defectiveChildren_lt (node : Node) :
    sizeAll node.defectiveChildren < node.size := by
  have bound :=
    sizeAll_filter_le (fun child => child.hasDefect || child.missing) node.children
  rw [size_eq]
  unfold defectiveChildren
  omega

/-- Searches pending trees for the first defect. -/
def searchDefect : List Node → Option Node
  | [] => none
  | node :: rest =>
      if node.isDefect then some node
      else searchDefect (node.defectiveChildren ++ rest)
termination_by pending => sizeAll pending
decreasing_by
  have smaller := sizeAll_defectiveChildren_lt node
  rw [sizeAll_append]
  simp only [sizeAll]
  omega

/-- The first defect of a tree in document order. -/
def firstDefect? (node : Node) : Option Node :=
  searchDefect [node]

end Node
end ComponentOutline
