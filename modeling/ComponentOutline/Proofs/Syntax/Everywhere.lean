import ComponentOutline.Proofs.Syntax.Occurrence

/-!
# What holds all over a tree

A condition on single nodes holds everywhere in a tree if it holds of all its nodes,
tokens included.  It then holds everywhere in what stands in the tree: in its children,
under its fields and at the places that a walk reaches.
-/

namespace ComponentOutline
namespace Node

/-- What holds of a node whenever it holds of its children holds of all nodes. -/
theorem induction
    {holds : Node → Prop}
    (step : ∀ label children,
      (∀ child ∈ children, holds child) → holds (.mk label children))
    (node : Node) :
    holds node :=
  @Node.rec holds (fun nodes => ∀ child ∈ nodes, holds child) step nofun
    (fun _ _ first rest => List.forall_mem_cons.mpr ⟨first, rest⟩) node

/-- A condition holds of every node of a tree. -/
def Everywhere (holds : Node → Prop) (root : Node) : Prop :=
  ∀ node ∈ root.preorder, holds node

instance (holds : Node → Prop) [DecidablePred holds] (root : Node) :
    Decidable (root.Everywhere holds) :=
  inferInstanceAs (Decidable (∀ node ∈ root.preorder, holds node))

/-- The nodes of several trees are the nodes of each. -/
theorem mem_preorderAll {node : Node} {nodes : List Node} :
    node ∈ preorderAll nodes ↔ ∃ root ∈ nodes, node ∈ root.preorder := by
  induction nodes with
  | nil => simp [preorderAll]
  | cons first rest inductionHypothesis => simp [preorderAll, inductionHypothesis]

/-- What holds everywhere holds here and everywhere in the children. -/
theorem everywhere_mk {holds : Node → Prop} {label : Label} {children : List Node} :
    (mk label children).Everywhere holds ↔
      holds (.mk label children) ∧ ∀ child ∈ children, child.Everywhere holds := by
  simp only [Everywhere, preorder, List.forall_mem_cons, mem_preorderAll]
  constructor
  · rintro ⟨here, below⟩
    exact ⟨here, fun child isChild node isBelow => below node ⟨child, isChild, isBelow⟩⟩
  · rintro ⟨here, below⟩
    refine ⟨here, ?_⟩
    rintro node ⟨child, isChild, isBelow⟩
    exact below child isChild node isBelow

namespace Everywhere

variable {holds : Node → Prop} {root child : Node}

theorem here (everywhere : root.Everywhere holds) : holds root := by
  cases root with
  | mk label children => exact (everywhere_mk.mp everywhere).1

theorem of_mem_children
    (everywhere : root.Everywhere holds)
    (isChild : child ∈ root.children) :
    child.Everywhere holds := by
  cases root with
  | mk label children => exact (everywhere_mk.mp everywhere).2 child isChild

theorem of_mem_namedChildren
    (everywhere : root.Everywhere holds)
    (isChild : child ∈ root.namedChildren) :
    child.Everywhere holds :=
  everywhere.of_mem_children (List.mem_filter.mp isChild).1

theorem of_mem_contents
    (everywhere : root.Everywhere holds)
    (isChild : child ∈ root.contents) :
    child.Everywhere holds :=
  everywhere.of_mem_namedChildren (List.mem_filter.mp isChild).1

theorem of_child?
    {field : String}
    (everywhere : root.Everywhere holds)
    (found : root.child? field = some child) :
    child.Everywhere holds :=
  everywhere.of_mem_children (List.mem_of_find?_eq_some found)

/-- What holds everywhere holds everywhere in each node inside. -/
theorem of_mem_preorder
    {node : Node}
    (everywhere : root.Everywhere holds)
    (isNode : node ∈ root.preorder) :
    node.Everywhere holds := by
  induction root using Node.induction with
  | step label children inductionHypothesis =>
      rw [preorder, List.mem_cons, mem_preorderAll] at isNode
      obtain rfl | ⟨child, isChild, isBelow⟩ := isNode
      · exact everywhere
      · exact inductionHypothesis child isChild (everywhere.of_mem_children isChild) isBelow

end Everywhere

/-- A condition that holds everywhere in a tree holds everywhere at the places that are
reached. -/
theorem Everywhere.of_mem_reached
    {holds : Node → Prop}
    {barrier : Node → Bool}
    {root : Node}
    {place : Occurrence}
    (everywhere : root.Everywhere holds)
    (isPlace : place ∈ root.reached barrier) :
    place.node.Everywhere holds :=
  everywhere.of_mem_preorder
    ((reached_sublist barrier root).subset (List.mem_map_of_mem isPlace))

/-- What holds everywhere holds at each place that a search reaches. -/
theorem Everywhere.of_mem_reachedBelow
    {holds : Node → Prop}
    {barrier : Node → Bool}
    {root : Node}
    {place : Occurrence}
    (everywhere : root.Everywhere holds)
    (isPlace : place ∈ root.reachedBelow barrier) :
    place.node.Everywhere holds := by
  rw [reachedBelow_eq_exposedIn] at isPlace
  have isBelow : place.node ∈ preorderAll root.children :=
    (exposedIn_sublist barrier [] root.children).subset (List.mem_map_of_mem isPlace)
  obtain ⟨child, isChild, isNode⟩ := mem_preorderAll.mp isBelow
  exact (everywhere.of_mem_children isChild).of_mem_preorder isNode

end Node
end ComponentOutline
