import ComponentOutline.Proofs.Syntax.Similar

/-!
# The elements of similar trees

Related elements have the same tag and the same props, and the same components are found
inside of them.
-/

namespace ComponentOutline

namespace Markup

/-- The components that one element adds to those of the element around it: itself, or,
if it is plain markup, those inside of it. -/
def contribution (child : Node) : Logged (List Descriptor) := do
  let tag ← Effect.ofExcept (tagName child)
  if isMarkupTag tag then childComponents child
  else
    let name := tag.getD ""
    Logged.write (foundRecord name)
    let ownProps ← Effect.ofExcept (props child)
    let inner ← childComponents child
    return [.mk name [] ownProps inner]

/-- The components of elements, one element after the other. -/
def contributions : List Node → Logged (List Descriptor)
  | [] => pure []
  | element :: rest => do
      let front ← contribution element
      let back ← contributions rest
      return front ++ back

theorem isComment_of_isElement
    {node : Node}
    (element : isElement node = true) :
    node.isComment = false := by
  unfold isElement isSelfClosing at element
  rw [Bool.or_eq_true, beq_iff_eq, beq_iff_eq] at element
  unfold Node.isComment
  obtain isOpen | isClosed := element
  · rw [isOpen]
    decide
  · rw [isClosed]
    decide

theorem isClassPart_of_isElement
    {node : Node}
    (element : isElement node = true) :
    node.isClassPart = false := by
  unfold isElement isSelfClosing at element
  rw [Bool.or_eq_true] at element
  obtain isOpen | isClosed := element
  · exact Node.isClassPart_eq_false isOpen (by decide)
  · exact Node.isClassPart_eq_false isClosed (by decide)

/-- The components inside of markup are what its elements contribute. -/
theorem componentsIn_eq (label : Label) (children : List Node) :
    componentsIn children =
      contributions ((Node.mk label children).contents.filter isElement) := by
  induction children with
  | nil => rfl
  | cons child rest inductionHypothesis =>
      rw [componentsIn, Node.contents_cons, inductionHypothesis]
      cases element : isElement child with
      | false =>
          rw [Bool.and_false, if_neg Bool.false_ne_true]
          split
          · rfl
          · rw [List.filter_cons_of_neg (by simp [element])]
      | true =>
          rw [isComment_of_isElement element]
          cases child.named with
          | false => rfl
          | true =>
              rw [Bool.and_true, if_pos rfl, Bool.not_true, Bool.or_false,
                if_neg Bool.false_ne_true, List.filter_cons_of_pos element, contributions,
                contribution, bind_assoc]
              congr 1
              funext tag
              split
              · rfl
              · simp only [bind_assoc, pure_bind, List.singleton_append]

/-- An element that closes itself has nothing inside. -/
theorem childComponents_eq (element : Node) :
    childComponents element =
      if isSelfClosing element then pure []
      else contributions (element.contents.filter isElement) := by
  cases element with
  | mk label children => rw [childComponents, componentsIn_eq label]

/-- The props are named by the first named children of the attributes. -/
theorem props_eq (element : Node) :
    props element =
      (((openingTag element).namedChildren.filter Node.isAttribute).filterMap fun child =>
        child.namedChildren.head?).mapM Node.readText := by
  unfold props
  rw [List.filterMap_filter]
  rfl

end Markup

namespace Similarity

open Markup

variable {related : Node → Node → Prop} {first second : Node}

theorem isSelfClosing_eq
    (similar : Similarity related)
    (nodes : related first second) :
    isSelfClosing first = isSelfClosing second := by
  rw [isSelfClosing, isSelfClosing, (similar.sameFace nodes).kind]

theorem isElement_eq
    (similar : Similarity related)
    (nodes : related first second) :
    isElement first = isElement second := by
  rw [isElement, isElement, similar.isSelfClosing_eq nodes, (similar.sameFace nodes).kind]

/-- Similar elements have similar opening tags. -/
theorem openingTag
    (similar : Similarity related)
    (nodes : related first second)
    (plain : first.isClassPart = false) :
    related (openingTag first) (Markup.openingTag second) := by
  unfold Markup.openingTag
  rw [similar.isSelfClosing_eq nodes]
  split
  · exact nodes
  · obtain ⟨absent, absentToo⟩ | ⟨left, right, found, foundToo, children⟩ :=
      rel_cases (similar.child "open_tag" nodes plain)
    · rw [absent, absentToo]
      obtain ⟨absent, absentToo⟩ | ⟨left, right, found, foundToo, children⟩ :=
        rel_cases (similar.find?_namedChildren nodes plain "jsx_opening_element" (by decide))
      · simp only [absent, absentToo]
        exact nodes
      · simp only [found, foundToo]
        exact children
    · rw [found, foundToo]
      exact children

theorem tagName_eq
    (similar : Similarity related)
    (nodes : related first second)
    (plain : first.isClassPart = false) :
    tagName first = tagName second := by
  unfold tagName
  obtain ⟨absent, absentToo⟩ | ⟨left, right, found, foundToo, names⟩ :=
    rel_cases (similar.name (similar.openingTag nodes plain))
  · rw [absent, absentToo]
  · rw [found, foundToo]
    simp only [names.readText]

theorem mapM_readText_eq
    (similar : Similarity related)
    {firsts seconds : List Node}
    (lists : List.Forall₂ related firsts seconds) :
    firsts.mapM Node.readText = seconds.mapM Node.readText := by
  induction lists with
  | nil => rfl
  | cons heads tails inductionHypothesis =>
      rw [List.mapM_cons, List.mapM_cons, (similar.sameFace heads).readText,
        inductionHypothesis]

/-- The nodes that name the props of related attributes are related. -/
theorem attributeNames
    (similar : Similarity related)
    {firsts seconds : List Node}
    (lists : List.Forall₂ related firsts seconds)
    (attributes : ∀ node ∈ firsts, node.isAttribute = true) :
    List.Forall₂ related
      (firsts.filterMap fun child => child.namedChildren.head?)
      (seconds.filterMap fun child => child.namedChildren.head?) := by
  induction lists with
  | nil => exact .nil
  | @cons first second _ _ heads tails inductionHypothesis =>
      obtain ⟨isAttribute, others⟩ := List.forall_mem_cons.mp attributes
      have rest := inductionHypothesis others
      rw [List.filterMap_cons, List.filterMap_cons]
      obtain ⟨absent, absentToo⟩ | ⟨left, right, found, foundToo, names⟩ :=
        rel_cases (similar.head heads (by rw [isAttribute, Bool.or_true]))
      · rw [absent, absentToo]
        exact rest
      · rw [found, foundToo]
        exact .cons names rest

theorem props_eq
    (similar : Similarity related)
    (nodes : related first second)
    (plain : first.isClassPart = false) :
    props first = props second := by
  rw [Markup.props_eq, Markup.props_eq]
  apply similar.mapM_readText_eq
  apply similar.attributeNames (similar.attributes (similar.openingTag nodes plain))
  intro node isMember
  exact (List.mem_filter.mp isMember).2

/-- Similar elements contribute the same if the same is inside. -/
theorem contribution_eq
    (similar : Similarity related)
    (nodes : related first second)
    (plain : first.isClassPart = false)
    (inside : childComponents first = childComponents second) :
    contribution first = contribution second := by
  unfold contribution
  rw [similar.tagName_eq nodes plain, similar.props_eq nodes plain, inside]

/-- Elements that contribute the same one by one do so together. -/
theorem contributions_eq
    {firsts seconds : List Node}
    (elements :
      List.Forall₂ (fun element other => contribution element = contribution other)
        firsts seconds) :
    contributions firsts = contributions seconds := by
  induction elements with
  | nil => rfl
  | cons heads tails inductionHypothesis =>
      rw [contributions, contributions, heads, inductionHypothesis]

/-- The same components are found inside of related elements. -/
theorem childComponents_eq
    (similar : Similarity related)
    (first : Node) :
    ∀ second, related first second → first.isClassPart = false →
      childComponents first = childComponents second := by
  induction first using Node.induction with
  | step label children inductionHypothesis =>
      intro second nodes plain
      rw [Markup.childComponents_eq, Markup.childComponents_eq, similar.isSelfClosing_eq nodes]
      split
      · rfl
      · apply contributions_eq
        have elements :
            List.Forall₂ related
              ((Node.mk label children).contents.filter isElement)
              (second.contents.filter isElement) := by
          apply List.rel_filter _ (similar.contents nodes plain)
          intro child other pair
          simp only [similar.isElement_eq pair]
        have below : ∀ child ∈ (Node.mk label children).contents.filter isElement,
            ∀ other, related child other → contribution child = contribution other := by
          intro child isMember other pair
          obtain ⟨isContent, element⟩ := List.mem_filter.mp isMember
          have plainToo := isClassPart_of_isElement element
          apply similar.contribution_eq pair plainToo
          exact inductionHypothesis child (Node.mem_children_of_mem_contents isContent) other
            pair plainToo
        exact ((List.forall₂_and_left _ _).mpr ⟨below, elements⟩).imp
          fun child other ⟨equal, pair⟩ => equal other pair

end Similarity
end ComponentOutline
