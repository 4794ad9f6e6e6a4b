import ComponentOutline.Text.Utf8

/-!
# Syntax trees

A node of a syntax tree has a kind, a place in the source, the bytes it covers and
its children in order.  Some nodes are anonymous tokens; the named ones carry the
meaning.  A child may stand under a field name, and a node that the grammar put in
to recover from an error is marked as missing.
-/

namespace ComponentOutline

/-- What a node is, apart from its children. -/
structure Label where
  /-- The number of the node in pre-order. -/
  index : Nat
  kind : String
  named : Bool
  /-- The field under which the parent holds the node. -/
  field : Option String
  missing : Bool
  /-- The line of the first byte, counted from 0. -/
  row : Nat
  /-- The bytes between the start of that line and the first byte. -/
  column : Nat
  /-- The source bytes that the node covers. -/
  bytes : List UInt8

/-- A syntax tree. -/
inductive Node where
  | mk (label : Label) (children : List Node)

namespace Node

/-- What the node is, apart from its children. -/
def label : Node → Label
  | .mk label _ => label

/-- All children, in order. -/
def children : Node → List Node
  | .mk _ children => children

@[simp] theorem label_mk (label : Label) (children : List Node) :
    (mk label children).label = label := rfl

@[simp] theorem children_mk (label : Label) (children : List Node) :
    (mk label children).children = children := rfl

/-- The kind of a node. -/
def kind (node : Node) : String :=
  node.label.kind

/-- Whether a node is more than an anonymous token. -/
def named (node : Node) : Bool :=
  node.label.named

/-- Whether a node was put in by error recovery. -/
def missing (node : Node) : Bool :=
  node.label.missing

/-- The line of a node, counted from 1. -/
def line (node : Node) : Nat :=
  node.label.row + 1

/-- The column of a node in bytes, counted from 0. -/
def column (node : Node) : Nat :=
  node.label.column

/-- The source text of a node, if its bytes are text. -/
def text (node : Node) : Except Utf8.Fault String :=
  Utf8.decode node.label.bytes

/-- The children that are more than tokens. -/
def namedChildren (node : Node) : List Node :=
  node.children.filter named

/-- The first child under a field, named or not. -/
def child? (field : String) (node : Node) : Option Node :=
  node.children.find? fun child => child.label.field == some field

/-- Whether a node is a comment. -/
def isComment (node : Node) : Bool :=
  node.kind == "comment"

/-- The named children without the comments. -/
def contents (node : Node) : List Node :=
  node.namedChildren.filter fun child => !child.isComment

mutual

/-- The number of nodes of a tree. -/
def size : Node → Nat
  | .mk _ children => sizeAll children + 1

/-- The number of nodes of a forest. -/
def sizeAll : List Node → Nat
  | [] => 0
  | node :: rest => node.size + sizeAll rest

end

mutual

/-- All nodes of a tree, each before its descendants. -/
def preorder : Node → List Node
  | .mk label children => .mk label children :: preorderAll children

/-- All nodes of a forest, each before its descendants. -/
def preorderAll : List Node → List Node
  | [] => []
  | node :: rest => node.preorder ++ preorderAll rest

end

theorem size_pos (node : Node) : 0 < node.size := by
  cases node with
  | mk label children => simp [size]

theorem size_eq (node : Node) : node.size = sizeAll node.children + 1 := by
  cases node with
  | mk label children => simp [size, Node.children]

theorem sizeAll_append (front back : List Node) :
    sizeAll (front ++ back) = sizeAll front + sizeAll back := by
  induction front with
  | nil => simp [sizeAll]
  | cons node rest inductionHypothesis =>
      simp only [List.cons_append, sizeAll, inductionHypothesis]
      omega

theorem sizeAll_filter_le (keep : Node → Bool) (nodes : List Node) :
    sizeAll (nodes.filter keep) ≤ sizeAll nodes := by
  induction nodes with
  | nil => simp [sizeAll]
  | cons node rest inductionHypothesis =>
      rw [List.filter_cons]
      split
      · simp only [sizeAll]
        omega
      · simp only [sizeAll]
        omega

/-- The named children are together smaller than their parent. -/
theorem sizeAll_namedChildren_lt (node : Node) :
    sizeAll node.namedChildren < node.size := by
  have bound := sizeAll_filter_le named node.children
  rw [size_eq]
  unfold namedChildren
  omega

end Node
end ComponentOutline
