import ComponentOutline.Proofs.Component.Placement
import ComponentOutline.Proofs.Markup.Readable
import Mathlib.Data.List.Forall2

/-!
# The components that an element renders

An element leads to the elements among its named children, and from these on, but not out
of one that closes itself.  The components among the elements that it leads to, in the
order of the source, are those that looking through plain markup finds: each stands as deep
in what is found as there are components between the element and it.
-/

namespace ComponentOutline

namespace Descriptor

mutual

/-- A component at a depth and all components inside of it with their depths, each before
those inside of it. -/
def listed (depth : Nat) : Descriptor → List (Nat × Descriptor)
  | .mk name state props children =>
      (depth, .mk name state props children) :: listedAll (depth + 1) children

/-- Components at a depth and all components inside of them with their depths. -/
def listedAll (depth : Nat) : List Descriptor → List (Nat × Descriptor)
  | [] => []
  | component :: rest => listed depth component ++ listedAll depth rest

end

theorem listedAll_append (depth : Nat) (front back : List Descriptor) :
    listedAll depth (front ++ back) = listedAll depth front ++ listedAll depth back := by
  induction front with
  | nil => rfl
  | cons component rest inductionHypothesis =>
      rw [List.cons_append, listedAll, listedAll, inductionHypothesis, List.append_assoc]

end Descriptor

namespace Markup

/-- Whether an element is that of a component: it has a tag, and not one of HTML. -/
def isComponentElement (element : Node) : Bool :=
  match tagName element with
  | .ok (some tag) => !htmlElements.contains tag
  | _ => false

/-- Whether a node leads to no elements: it is none, or it closes itself. -/
def isEnd (node : Node) : Bool :=
  !isElement node || isSelfClosing node

/-- The elements that an element leads to through named children, in pre-order. -/
def rendered (element : Node) : List Occurrence :=
  if isSelfClosing element then []
  else (element.reachedBelow isEnd).filter fun place => isElement place.node

/-- The elements of components among them. -/
def renderedComponents (element : Node) : List Occurrence :=
  (rendered element).filter fun place => isComponentElement place.node

/-- A component that is listed with its depth is that of an element: it has the tag and
the props of the element and no state, and it stands as deep as there are components
between the element around and this one. -/
structure Lists (entry : Nat × Descriptor) (place : Occurrence) : Prop where
  depth_eq : entry.1 = place.ancestors.countP isComponentElement
  tagName_eq : tagName place.node = .ok (some entry.2.name)
  isMarkupTag_eq : isMarkupTag (some entry.2.name) = false
  props_eq : props place.node = .ok entry.2.props
  state_eq : entry.2.state = []

/-- The components inside of a listed one are besides those that its element renders. -/
structure ListsWhole (entry : Nat × Descriptor) (place : Occurrence) : Prop
    extends Lists entry place where
  children_eq : components place.node = .ok entry.2.children

/-- An element is a component exactly if its tag is none of the markup itself. -/
theorem isComponentElement_of_tagName
    {element : Node}
    {tag : Option String}
    (tagged : tagName element = .ok tag) :
    isComponentElement element = !isMarkupTag tag := by
  rw [isComponentElement, tagged]
  cases tag with
  | none => rfl
  | some name => rfl

/-- The elements of components that are found in a forest. -/
def componentPlaces (around : List Node) (nodes : List Node) : List Occurrence :=
  ((Node.exposedIn isEnd around nodes).filter fun place => isElement place.node).filter
    fun place => isComponentElement place.node

/-- The elements of components inside of an element, with the element itself around. -/
def componentPlacesBelow (around : List Node) (element : Node) : List Occurrence :=
  if isSelfClosing element then [] else componentPlaces around element.children

theorem renderedComponents_eq (element : Node) :
    renderedComponents element = componentPlacesBelow [] element := by
  rw [renderedComponents, rendered, componentPlacesBelow, componentPlaces,
    Node.reachedBelow_eq_exposedIn]
  split
  · rfl
  · rfl

theorem componentPlaces_cons_of_other
    {child : Node}
    (other : (child.named && isElement child) = false)
    (around rest : List Node) :
    componentPlaces around (child :: rest) = componentPlaces around rest := by
  have nothing :
      ((if child.named then Node.exposed isEnd around child else []).filter
        fun place => isElement place.node) = [] := by
    cases named : child.named with
    | false => rfl
    | true =>
        have noElement : isElement child = false := by
          simpa [named] using other
        have ends : isEnd child = true := by
          simp [isEnd, noElement]
        rw [if_pos rfl, Node.exposed_of_barrier ends]
        simp [noElement]
  rw [componentPlaces, Node.exposedIn, List.filter_append, nothing, List.nil_append]
  rfl

/-- An element renders itself, if it is a component, and then what is inside of it. -/
theorem componentPlaces_cons_of_element
    {child : Node}
    (named : child.named = true)
    (element : isElement child = true)
    (around rest : List Node) :
    componentPlaces around (child :: rest) =
      (if isComponentElement child then [⟨around, child⟩] else []) ++
        (componentPlacesBelow (child :: around) child ++ componentPlaces around rest) := by
  have places :
      Node.exposed isEnd around child =
        ⟨around, child⟩ ::
          if isSelfClosing child then []
          else Node.exposedIn isEnd (child :: around) child.children := by
    cases closing : isSelfClosing child with
    | true => exact Node.exposed_of_barrier (by simp [isEnd, closing]) around
    | false => exact Node.exposed_of_open (by simp [isEnd, element, closing]) around
  have inside :
      ((if isSelfClosing child then []
          else Node.exposedIn isEnd (child :: around) child.children).filter
        fun place => isElement place.node).filter
        (fun place => isComponentElement place.node) =
      componentPlacesBelow (child :: around) child := by
    rw [componentPlacesBelow, componentPlaces]
    split
    · rfl
    · rfl
  have isElement : isElement (⟨around, child⟩ : Occurrence).node = true := element
  rw [componentPlaces, Node.exposedIn, if_pos named, places, List.filter_append,
    List.filter_append, List.filter_cons, if_pos isElement, List.filter_cons, inside,
    ← componentPlaces]
  split
  · rfl
  · rfl

/-- Plain markup adds nothing to the depth, and only what is inside of it is listed. -/
theorem listsWhole_of_markup
    {child : Node}
    {around rest : List Node}
    {inner others : List Descriptor}
    (named : child.named = true)
    (element : isElement child = true)
    (markup : isComponentElement child = false)
    (below : List.Forall₂ ListsWhole
      (Descriptor.listedAll ((child :: around).countP isComponentElement) inner)
      (componentPlacesBelow (child :: around) child))
    (beside : List.Forall₂ ListsWhole
      (Descriptor.listedAll (around.countP isComponentElement) others)
      (componentPlaces around rest)) :
    List.Forall₂ ListsWhole
      (Descriptor.listedAll (around.countP isComponentElement) (inner ++ others))
      (componentPlaces around (child :: rest)) := by
  rw [List.countP_cons_of_neg (by simp [markup])] at below
  rw [Descriptor.listedAll_append, componentPlaces_cons_of_element named element, markup,
    if_neg Bool.false_ne_true, List.nil_append]
  exact List.rel_append below beside

/-- A component is listed before what is inside of it, which is one deeper. -/
theorem listsWhole_of_component
    {child : Node}
    {around rest : List Node}
    {name : String}
    {ownProps : List String}
    {inner others : List Descriptor}
    (named : child.named = true)
    (element : isElement child = true)
    (tagged : tagName child = .ok (some name))
    (component : isMarkupTag (some name) = false)
    (read : props child = .ok ownProps)
    (rendersInner : components child = .ok inner)
    (below : List.Forall₂ ListsWhole
      (Descriptor.listedAll ((child :: around).countP isComponentElement) inner)
      (componentPlacesBelow (child :: around) child))
    (beside : List.Forall₂ ListsWhole
      (Descriptor.listedAll (around.countP isComponentElement) others)
      (componentPlaces around rest)) :
    List.Forall₂ ListsWhole
      (Descriptor.listedAll (around.countP isComponentElement)
        (.mk name [] ownProps inner :: others))
      (componentPlaces around (child :: rest)) := by
  have isComponent : isComponentElement child = true := by
    rw [isComponentElement_of_tagName tagged, component]
    rfl
  rw [List.countP_cons_of_pos isComponent] at below
  rw [Descriptor.listedAll, Descriptor.listed,
    componentPlaces_cons_of_element named element, isComponent, if_pos rfl,
    List.singleton_append, List.cons_append]
  exact .cons ⟨⟨rfl, tagged, component, read, rfl⟩, rendersInner⟩
    (List.rel_append below beside)

mutual

/-- What is found inside of an element is listed at the elements of components there. -/
theorem listsWhole_childComponents (around : List Node) :
    (element : Node) → {log after : Log} → {found : List Descriptor} →
      childComponents element log = (.ok found, after) →
        List.Forall₂ ListsWhole
          (Descriptor.listedAll (around.countP isComponentElement) found)
          (componentPlacesBelow around element)
  | .mk label children, log, after, found, succeeded => by
      rw [childComponents] at succeeded
      rw [componentPlacesBelow]
      split at succeeded
      · next closing =>
          cases succeeded
          rw [if_pos closing]
          exact .nil
      · next isOpen =>
          rw [if_neg isOpen]
          exact listsWhole_componentsIn around children succeeded

/-- The components that are read list the elements, each with its depth, tag and props. -/
theorem listsWhole_componentsIn (around : List Node) :
    (nodes : List Node) → {log after : Log} → {found : List Descriptor} →
      componentsIn nodes log = (.ok found, after) →
        List.Forall₂ ListsWhole
          (Descriptor.listedAll (around.countP isComponentElement) found)
          (componentPlaces around nodes)
  | [], log, after, found, succeeded => by
      cases succeeded
      exact .nil
  | child :: rest, log, after, found, succeeded => by
      rw [componentsIn] at succeeded
      split at succeeded
      · next isElement =>
          obtain ⟨named, element⟩ := (Bool.and_eq_true _ _).mp isElement
          obtain ⟨tag, _, evaluated, succeeded⟩ := Effect.ok_of_bind_apply succeeded
          obtain ⟨tagged, rfl⟩ := Prod.mk.inj evaluated
          have judged := isComponentElement_of_tagName tagged
          split at succeeded
          · next markup =>
              obtain ⟨inner, _, innerFound, succeeded⟩ := Effect.ok_of_bind_apply succeeded
              obtain ⟨others, _, othersFound, succeeded⟩ := Effect.ok_of_bind_apply succeeded
              cases succeeded
              rw [markup] at judged
              exact listsWhole_of_markup named element judged
                (listsWhole_childComponents (child :: around) child innerFound)
                (listsWhole_componentsIn around rest othersFound)
          · next component =>
              obtain ⟨_, _, _, succeeded⟩ := Effect.ok_of_bind_apply succeeded
              obtain ⟨ownProps, _, evaluated, succeeded⟩ := Effect.ok_of_bind_apply succeeded
              obtain ⟨read, rfl⟩ := Prod.mk.inj evaluated
              obtain ⟨inner, _, innerFound, succeeded⟩ := Effect.ok_of_bind_apply succeeded
              obtain ⟨others, _, othersFound, succeeded⟩ := Effect.ok_of_bind_apply succeeded
              cases succeeded
              cases tag with
              | none => exact absurd rfl component
              | some name =>
                  have rendersInner : components child = .ok inner := by
                    rw [← childComponents_result, innerFound]
                  exact listsWhole_of_component named element tagged (by simpa using component) read
                    rendersInner (listsWhole_childComponents (child :: around) child innerFound)
                    (listsWhole_componentsIn around rest othersFound)
      · next other =>
          rw [componentPlaces_cons_of_other (by simpa using other)]
          exact listsWhole_componentsIn around rest succeeded

end

theorem lists_childComponents
    (around : List Node)
    (element : Node)
    {log after : Log}
    {found : List Descriptor}
    (succeeded : childComponents element log = (.ok found, after)) :
    List.Forall₂ Lists
      (Descriptor.listedAll (around.countP isComponentElement) found)
      (componentPlacesBelow around element) :=
  (listsWhole_childComponents around element succeeded).imp fun _ _ lists => lists.toLists

/-- If an element can be read, the components inside of it are found, and what is found
lists exactly the elements of components that the element leads to, in their order, each
with its depth, its tag, its props and no state. -/
theorem childComponents_lists_renderedComponents
    {element : Node}
    (readable : element.IsReadable)
    (log : Log) :
    ∃ found after,
      childComponents element log = (.ok found, after) ∧
        List.Forall₂ Lists (Descriptor.listedAll 0 found) (renderedComponents element) := by
  obtain ⟨found, after, succeeded⟩ := childComponents_ok element readable log
  refine ⟨found, after, succeeded, ?_⟩
  rw [renderedComponents_eq]
  exact lists_childComponents [] element succeeded

/-- The tree of `<div><A x><p><B /></p></A><><C /></></div>`, without the closing tags. -/
def sampleElement : Node :=
  .ofText "jsx_element" none "<div><A x><p><B /></p></A><><C /></></div>" [
    .ofText "jsx_opening_element" (some "open_tag") "<div>" [
      .ofText "identifier" (some "name") "div" []],
    .ofText "jsx_element" none "<A x><p><B /></p></A>" [
      .ofText "jsx_opening_element" (some "open_tag") "<A x>" [
        .ofText "identifier" (some "name") "A" [],
        .ofText "jsx_attribute" (some "attribute") "x" [
          .ofText "property_identifier" none "x" []]],
      .ofText "jsx_element" none "<p><B /></p>" [
        .ofText "jsx_opening_element" (some "open_tag") "<p>" [
          .ofText "identifier" (some "name") "p" []],
        .ofText "jsx_self_closing_element" none "<B />" [
          .ofText "identifier" (some "name") "B" []]]],
    .ofText "jsx_element" none "<><C /></>" [
      .ofText "jsx_opening_element" (some "open_tag") "<>" [],
      .ofText "jsx_self_closing_element" none "<C />" [
        .ofText "identifier" (some "name") "C" []]]]

/-- An element with components inside of each other and of plain markup. -/
theorem childComponents_lists_renderedComponents_sampleElement :
    sampleElement.IsReadable ∧
      ∃ found after,
        childComponents sampleElement [] = (.ok found, after) ∧
          List.Forall₂ Lists (Descriptor.listedAll 0 found)
            (renderedComponents sampleElement) ∧
          (Descriptor.listedAll 0 found).map
              (fun entry => (entry.1, entry.2.name, entry.2.props)) =
            [(0, "A", ["x"]), (1, "B", []), (0, "C", [])] := by
  have readable : sampleElement.IsReadable := by decide +kernel
  have evaluated :
      (childComponents sampleElement []).1 =
        .ok [.mk "A" [] ["x"] [.mk "B" [] [] []], .mk "C" [] [] []] := by
    rfl
  obtain ⟨found, after, succeeded, lists⟩ :=
    childComponents_lists_renderedComponents readable []
  refine ⟨readable, found, after, succeeded, lists, ?_⟩
  rw [succeeded] at evaluated
  cases evaluated
  rfl

end Markup
end ComponentOutline
