import ComponentOutline.Markup.Element
import ComponentOutline.Proofs.Syntax.Everywhere

/-!
# Trees that can be read

A tree can be read if the bytes of all its nodes are text.  Describing an element needs
nothing else: its tag, its props and the components inside of it are then always found.
-/

namespace ComponentOutline

/-- The bytes of every node of a tree are text. -/
def Node.IsReadable (root : Node) : Prop :=
  root.Everywhere fun node => ∃ text, node.text = .ok text

instance (root : Node) : Decidable root.IsReadable :=
  decidable_of_iff (∀ node ∈ root.preorder, node.text.isOk = true) (by
    have each : ∀ node : Node, node.text.isOk = true ↔ ∃ text, node.text = .ok text := by
      intro node
      cases node.text with
      | ok text => simp [Except.isOk, Except.toBool]
      | error fault => simp [Except.isOk, Except.toBool]
    simp only [Node.IsReadable, Node.Everywhere, each])

theorem Node.IsReadable.readText
    {node : Node}
    (readable : node.IsReadable) :
    ∃ text, node.readText = .ok text := by
  obtain ⟨text, decoded⟩ := readable.here
  exact ⟨text, Node.readText_eq_ok_iff.mpr decoded⟩

namespace Markup

/-- The opening tag of a readable element is readable. -/
theorem isReadable_openingTag
    {element : Node}
    (readable : element.IsReadable) :
    (openingTag element).IsReadable := by
  unfold openingTag
  split
  · exact readable
  · split
    · next opening found => exact readable.of_child? found
    · cases found : element.namedChildren.find? fun child =>
          child.kind == "jsx_opening_element" with
      | none => exact readable
      | some opening => exact readable.of_mem_namedChildren (List.mem_of_find?_eq_some found)

theorem tagName_ok
    {element : Node}
    (readable : element.IsReadable) :
    ∃ tag, tagName element = .ok tag := by
  unfold tagName
  split
  · exact ⟨none, rfl⟩
  · next name found =>
      obtain ⟨text, read⟩ :=
        Node.IsReadable.readText ((isReadable_openingTag readable).of_child? found)
      rw [read]
      exact ⟨some text, rfl⟩

/-- If every node can be read, all of them can. -/
theorem mapM_readText_ok
    {nodes : List Node}
    (each : ∀ node ∈ nodes, ∃ text, node.readText = .ok text) :
    ∃ texts, nodes.mapM Node.readText = .ok texts := by
  induction nodes with
  | nil => exact ⟨[], rfl⟩
  | cons node rest inductionHypothesis =>
      obtain ⟨first, others⟩ := List.forall_mem_cons.mp each
      obtain ⟨text, read⟩ := first
      obtain ⟨texts, readAll⟩ := inductionHypothesis others
      refine ⟨text :: texts, ?_⟩
      rw [List.mapM_cons, read, readAll]
      rfl

theorem props_ok
    {element : Node}
    (readable : element.IsReadable) :
    ∃ found, props element = .ok found := by
  apply mapM_readText_ok
  intro nameNode isName
  obtain ⟨child, isChild, named⟩ := List.mem_filterMap.mp isName
  have opening := isReadable_openingTag readable
  unfold propNode? at named
  split at named
  · exact Node.IsReadable.readText
      ((opening.of_mem_namedChildren isChild).of_mem_namedChildren
        (List.mem_of_mem_head? named))
  · cases named

mutual

/-- The components of an element that can be read are found, whatever was logged. -/
theorem childComponents_ok :
    (element : Node) → element.IsReadable → (log : Log) →
      ∃ found after, childComponents element log = (.ok found, after)
  | .mk label children, readable, log => by
      have inside := componentsIn_ok children (Node.everywhere_mk.mp readable).2 log
      rw [childComponents]
      split
      · exact ⟨[], log, rfl⟩
      · exact inside

/-- The components inside of readable markup can always be read. -/
theorem componentsIn_ok :
    (nodes : List Node) → (∀ node ∈ nodes, node.IsReadable) → (log : Log) →
      ∃ found after, componentsIn nodes log = (.ok found, after)
  | [], _, log => ⟨[], log, rfl⟩
  | child :: rest, readable, log => by
      obtain ⟨first, others⟩ := List.forall_mem_cons.mp readable
      rw [componentsIn]
      split
      · obtain ⟨tag, tagged⟩ := tagName_ok first
        rw [tagged, Effect.bind_apply_of_ok _ (Effect.ofExcept_apply _ _)]
        split
        · obtain ⟨inner, between, innerFound⟩ := childComponents_ok child first log
          obtain ⟨found, after, restFound⟩ := componentsIn_ok rest others between
          refine ⟨inner ++ found, after, ?_⟩
          rw [Effect.bind_apply_of_ok _ innerFound, Effect.bind_apply_of_ok _ restFound]
          rfl
        · obtain ⟨own, ownRead⟩ := props_ok first
          have wrote : Logged.write (foundRecord (tag.getD "")) log =
              (.ok (), log ++ [foundRecord (tag.getD "")]) := rfl
          obtain ⟨inner, between, innerFound⟩ := childComponents_ok child first _
          obtain ⟨found, after, restFound⟩ := componentsIn_ok rest others between
          refine ⟨.mk (tag.getD "") [] own inner :: found, after, ?_⟩
          rw [Effect.bind_apply_of_ok _ wrote, ownRead,
            Effect.bind_apply_of_ok _ (Effect.ofExcept_apply _ _),
            Effect.bind_apply_of_ok _ innerFound, Effect.bind_apply_of_ok _ restFound]
          rfl
      · exact componentsIn_ok rest others log

end

end Markup
end ComponentOutline
