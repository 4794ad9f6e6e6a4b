import ComponentOutline.Proofs.Syntax.Everywhere
import ComponentOutline.Syntax.Defect

/-!
# The first defect in pre-order

A tree has a defect exactly if one of its nodes is one, tokens included.  The search passes
over whole trees only where there is none, and it keeps what is pending in document order, so
that it finds the first defect of the pre-order.
-/

namespace ComponentOutline
namespace Node

/-! ## Where a defect is -/

mutual

/-- A tree has a defect if any node of the pre-order is one. -/
theorem hasDefect_eq_any : (node : Node) → node.hasDefect = node.preorder.any isDefect
  | .mk label children => by
      rw [hasDefect, preorder, List.any_cons, anyDefect_eq_any children]

theorem anyDefect_eq_any :
    (nodes : List Node) → anyDefect nodes = (preorderAll nodes).any isDefect
  | [] => rfl
  | node :: rest => by
      rw [anyDefect, preorderAll, List.any_append, hasDefect_eq_any node, anyDefect_eq_any rest]

end

theorem preorder_eq (node : Node) : node.preorder = node :: preorderAll node.children := by
  cases node with
  | mk label children => rfl

theorem preorderAll_append (front back : List Node) :
    preorderAll (front ++ back) = preorderAll front ++ preorderAll back := by
  induction front with
  | nil => rfl
  | cons node rest inductionHypothesis =>
      rw [List.cons_append, preorderAll, preorderAll, inductionHypothesis, List.append_assoc]

/-- Nothing is found in a tree that the search passes over. -/
theorem find?_preorder_eq_none
    {node : Node}
    (clean : (node.hasDefect || node.missing) = false) :
    node.preorder.find? isDefect = none := by
  rw [Bool.or_eq_false_iff, hasDefect_eq_any, List.any_eq_false] at clean
  exact List.find?_eq_none.mpr clean.1

/-- Below a node the search finds the same without the children that it passes over. -/
theorem find?_preorderAll_defectiveChildren (node : Node) :
    (preorderAll node.defectiveChildren).find? isDefect =
      (preorderAll node.children).find? isDefect := by
  unfold defectiveChildren
  induction node.children with
  | nil => rfl
  | cons child rest inductionHypothesis =>
      rw [List.filter_cons]
      split
      · rw [preorderAll, preorderAll, List.find?_append, List.find?_append,
          inductionHypothesis]
      · next passedOver =>
          rw [preorderAll, List.find?_append,
            find?_preorder_eq_none (Bool.eq_false_iff.mpr passedOver), Option.none_or,
            inductionHypothesis]

/-! ## The search -/

/-- The search finds the first defect of the pending trees, in pre-order. -/
theorem searchDefect_eq_find? (pending : List Node) :
    searchDefect pending = (preorderAll pending).find? isDefect := by
  fun_induction searchDefect pending with
  | case1 => rfl
  | case2 node rest defect =>
      rw [preorderAll, preorder_eq, List.cons_append, List.find?_cons_of_pos defect]
  | case3 node rest sound inductionHypothesis =>
      rw [inductionHypothesis, preorderAll_append, List.find?_append,
        find?_preorderAll_defectiveChildren, preorderAll, preorder_eq, List.cons_append,
        List.find?_cons_of_neg sound, List.find?_append]

/-- The search with a stack goes through the pre-order. -/
theorem firstDefect?_eq_find? (node : Node) :
    node.firstDefect? = node.preorder.find? isDefect := by
  rw [firstDefect?, searchDefect_eq_find?, preorderAll, preorderAll, List.append_nil]

/-- A node is the first defect of a tree: it is one, and no node in front of it in pre-order
is. -/
def IsFirstDefect (root defect : Node) : Prop :=
  defect.isDefect = true ∧
    ∃ before after, root.preorder = before ++ defect :: after ∧
      ∀ other ∈ before, other.isDefect = false

/-- What is found is the first defect in the pre-order. -/
theorem firstDefect?_eq_some_iff {root defect : Node} :
    root.firstDefect? = some defect ↔ root.IsFirstDefect defect := by
  rw [firstDefect?_eq_find?, List.find?_eq_some_iff_append]
  simp only [IsFirstDefect, Bool.not_eq_true']

/-- Nothing is found exactly if there is no defect. -/
theorem firstDefect?_eq_none_iff {root : Node} :
    root.firstDefect? = none ↔ ∀ node ∈ root.preorder, node.isDefect = false := by
  rw [firstDefect?_eq_find?, List.find?_eq_none]
  simp only [Bool.not_eq_true]

theorem hasDefect_eq_false_iff {root : Node} :
    root.hasDefect = false ↔ ∀ node ∈ root.preorder, node.isDefect = false := by
  rw [hasDefect_eq_any, List.any_eq_false]
  simp only [Bool.not_eq_true]

/-- The first defect is a node of the tree. -/
theorem IsFirstDefect.mem_preorder
    {root defect : Node}
    (first : root.IsFirstDefect defect) :
    defect ∈ root.preorder := by
  obtain ⟨-, before, after, divided, -⟩ := first
  rw [divided]
  exact List.mem_append_right before List.mem_cons_self

end Node
end ComponentOutline
