import ComponentOutline.Proofs.Markup.Rendering

/-!
# Looking up a component that an element renders

A look-up by name goes through an outline depth first and ends at the first hit, so it gives
the first strict descendant of that name in pre-order.  The outlines of what an element
renders keep the order of the source, whatever markup is left out between them: a look-up
among them gives the outline of the first element with that tag.
-/

namespace ComponentOutline

namespace Descriptor

/-! ## The search through an outline -/

mutual

/-- The look-up goes through the components inside in pre-order. -/
theorem findChild_eq_find? (name : String) :
    (component : Descriptor) →
      component.findChild name = component.descendants.find? fun inner => inner.name == name
  | .mk _ _ _ children => by
      rw [findChild, descendants, findIn_eq_find? name children]

/-- What is inside of a component is searched before the components after it. -/
theorem findIn_eq_find? (name : String) :
    (components : List Descriptor) →
      findIn name components = (preorderAll components).find? fun inner => inner.name == name
  | [] => rfl
  | component :: rest => by
      rw [findIn, preorderAll, List.find?_cons]
      cases component.name == name with
      | true => rfl
      | false =>
          rw [List.find?_append, ← findChild_eq_find? name component,
            ← findIn_eq_find? name rest]
          cases findChild name component with
          | some found => rfl
          | none => rfl

end

theorem findChild_eq_none_iff
    {name : String}
    {component : Descriptor} :
    component.findChild name = none ↔
      ∀ inner ∈ component.descendants, inner.name ≠ name := by
  rw [findChild_eq_find?, List.find?_eq_none]
  simp only [beq_iff_eq, ne_eq]

theorem descendants_eq (component : Descriptor) :
    component.descendants = preorderAll component.children := by
  cases component with
  | mk name state props children => rfl

mutual

/-- The list goes through a component and those inside in pre-order. -/
theorem listed_map_snd (depth : Nat) :
    (component : Descriptor) →
      (listed depth component).map Prod.snd = component :: component.descendants
  | .mk name state props children => by
      rw [listed, List.map_cons, listedAll_map_snd (depth + 1) children, descendants]

/-- A list with depths is the pre-order. -/
theorem listedAll_map_snd (depth : Nat) :
    (components : List Descriptor) →
      (listedAll depth components).map Prod.snd = preorderAll components
  | [] => rfl
  | component :: rest => by
      rw [listedAll, List.map_append, listed_map_snd depth component,
        listedAll_map_snd depth rest, preorderAll, List.cons_append]

end

end Descriptor

namespace Markup

/-! ## The first element with a tag -/

/-- Whether the tag of an element is this one. -/
def hasTag (name : String) (element : Node) : Bool :=
  match tagName element with
  | .ok (some tag) => tag == name
  | _ => false

/-- An outline is that of an element: it has its tag and its props, no state, and the
components that the element renders. -/
structure Describes (component : Descriptor) (element : Node) : Prop where
  tagName_eq : tagName element = .ok (some component.name)
  props_eq : props element = .ok component.props
  state_eq : component.state = []
  children_eq : components element = .ok component.children

/-- An element has one outline. -/
theorem Describes.unique
    {component other : Descriptor}
    {element : Node}
    (describes : Describes component element)
    (alsoDescribes : Describes other element) :
    component = other := by
  obtain ⟨name, state, ownProps, inner⟩ := component
  obtain ⟨otherName, otherState, otherProps, otherInner⟩ := other
  have sameName : name = otherName := by
    simpa [describes.tagName_eq, Descriptor.name] using alsoDescribes.tagName_eq
  have sameProps : ownProps = otherProps := by
    simpa [describes.props_eq, Descriptor.props] using alsoDescribes.props_eq
  have sameInner : inner = otherInner := by
    simpa [describes.children_eq, Descriptor.children] using alsoDescribes.children_eq
  have sameState : state = otherState := describes.state_eq.trans alsoDescribes.state_eq.symm
  rw [sameName, sameProps, sameInner, sameState]

theorem hasTag_iff
    {name : String}
    {element : Node} :
    hasTag name element = true ↔ tagName element = .ok (some name) := by
  rw [hasTag]
  split
  · next tag tagged => simp [tagged]
  · next untagged =>
      constructor
      · intro impossible
        cases impossible
      · intro tagged
        exact absurd tagged (untagged name)

theorem Describes.hasTag_eq
    {component : Descriptor}
    {element : Node}
    (describes : Describes component element)
    (name : String) :
    hasTag name element = (component.name == name) := by
  rw [hasTag, describes.tagName_eq]

/-- What is found inside of an element are, in pre-order, the outlines of the elements of
components that it leads to. -/
theorem forall₂_describes
    {element : Node}
    {log after : Log}
    {found : List Descriptor}
    (succeeded : childComponents element log = (.ok found, after)) :
    List.Forall₂ (fun component place => Describes component place.node)
      (Descriptor.preorderAll found) (renderedComponents element) := by
  rw [renderedComponents_eq,
    ← Descriptor.listedAll_map_snd (([] : List Node).countP isComponentElement) found,
    List.forall₂_map_left_iff]
  refine (listsWhole_childComponents [] element succeeded).imp ?_
  intro entry place lists
  exact ⟨lists.tagName_eq, lists.props_eq, lists.state_eq, lists.children_eq⟩

/-- In two lists that correspond, the first hits correspond. -/
theorem rel_find?_of_forall₂
    {α β : Type}
    {related : α → β → Prop}
    {wanted : α → Bool}
    {wantedThere : β → Bool}
    (alike : ∀ first second, related first second → wanted first = wantedThere second)
    {left : List α}
    {right : List β}
    (pairs : List.Forall₂ related left right) :
    Option.Rel related (left.find? wanted) (right.find? wantedThere) := by
  induction pairs with
  | nil => exact .none
  | @cons first second rest others relates _ inductionHypothesis =>
      rw [List.find?_cons, List.find?_cons, alike first second relates]
      cases wantedThere second with
      | true => exact .some relates
      | false => exact inductionHypothesis

/-- What is found describes the first element with that tag, if there is any. -/
theorem rel_findChild
    {element : Node}
    {log after : Log}
    {parent : Descriptor}
    (succeeded : childComponents element log = (.ok parent.children, after))
    (name : String) :
    Option.Rel (fun component place => Describes component place.node)
      (parent.findChild name)
      ((renderedComponents element).find? fun place => hasTag name place.node) := by
  rw [Descriptor.findChild_eq_find?, Descriptor.descendants_eq]
  refine rel_find?_of_forall₂ ?_ (forall₂_describes succeeded)
  intro component place describes
  exact (describes.hasTag_eq name).symm

/-- Nothing is found exactly if no rendered component has that tag. -/
theorem findRendered_eq_none_iff
    {element : Node}
    {log after : Log}
    {parent : Descriptor}
    (succeeded : childComponents element log = (.ok parent.children, after))
    (name : String) :
    parent.findChild name = none ↔
      ∀ place ∈ renderedComponents element, tagName place.node ≠ .ok (some name) := by
  have related := rel_findChild succeeded name
  have none_iff :
      (renderedComponents element).find? (fun place => hasTag name place.node) = none ↔
        ∀ place ∈ renderedComponents element, tagName place.node ≠ .ok (some name) := by
    simp only [List.find?_eq_none, hasTag_iff, ne_eq]
  rw [← none_iff]
  generalize parent.findChild name = answer at related ⊢
  generalize (renderedComponents element).find? _ = first at related ⊢
  cases related with
  | none => simp
  | some describes => simp

/-- A look-up gives the first strict descendant of that name in pre-order, and nothing if
there is none.  Where the components of an element are found, and they are if it can be
read, a look-up in an outline with these children gives the outline of the first component
element below with that tag, and nothing if there is none. -/
theorem findChild_gives_first_rendered (name : String) :
    (∀ component : Descriptor,
      component.findChild name =
          component.descendants.find? (fun inner => inner.name == name) ∧
        (component.findChild name = none ↔
          ∀ inner ∈ component.descendants, inner.name ≠ name)) ∧
      ∀ (element : Node) (log : Log),
        (element.IsReadable →
          ∃ found after, childComponents element log = (.ok found, after)) ∧
        ∀ (parent : Descriptor) (after : Log),
          childComponents element log = (.ok parent.children, after) →
            Option.Rel (fun component place => Describes component place.node)
                (parent.findChild name)
                ((renderedComponents element).find? fun place => hasTag name place.node) ∧
              (parent.findChild name = none ↔
                ∀ place ∈ renderedComponents element,
                  tagName place.node ≠ .ok (some name)) := by
  refine ⟨fun component => ?_, fun element log => ⟨fun readable => ?_, ?_⟩⟩
  · exact ⟨component.findChild_eq_find? name, Descriptor.findChild_eq_none_iff⟩
  · exact childComponents_ok element readable log
  · intro parent after succeeded
    exact ⟨rel_findChild succeeded name, findRendered_eq_none_iff succeeded name⟩

/-- The tree of `<div><A><p><B x /></p></A><B /></div>`, without the closing tags. -/
def repeatedElement : Node :=
  .ofText "jsx_element" none "<div><A><p><B x /></p></A><B /></div>" [
    .ofText "jsx_opening_element" (some "open_tag") "<div>" [
      .ofText "identifier" (some "name") "div" []],
    .ofText "jsx_element" none "<A><p><B x /></p></A>" [
      .ofText "jsx_opening_element" (some "open_tag") "<A>" [
        .ofText "identifier" (some "name") "A" []],
      .ofText "jsx_element" none "<p><B x /></p>" [
        .ofText "jsx_opening_element" (some "open_tag") "<p>" [
          .ofText "identifier" (some "name") "p" []],
        .ofText "jsx_self_closing_element" none "<B x />" [
          .ofText "identifier" (some "name") "B" [],
          .ofText "jsx_attribute" (some "attribute") "x" [
            .ofText "property_identifier" none "x" []]]]],
    .ofText "jsx_self_closing_element" none "<B />" [
      .ofText "identifier" (some "name") "B" []]]

/-- The element inside of the first child comes before the second child. -/
theorem findChild_gives_first_rendered_repeatedElement :
    repeatedElement.IsReadable ∧
      ∃ (parent : Descriptor) (after : Log),
        childComponents repeatedElement [] = (.ok parent.children, after) ∧
          Option.Rel (fun component place => Describes component place.node)
            (parent.findChild "B")
            ((renderedComponents repeatedElement).find? fun place => hasTag "B" place.node) ∧
          (parent.findChild "B").map (fun component => component.props) = some ["x"] := by
  have readable : repeatedElement.IsReadable := by decide +kernel
  have evaluated :
      (childComponents repeatedElement []).1 =
        .ok [.mk "A" [] [] [.mk "B" [] ["x"] []], .mk "B" [] [] []] := by
    rfl
  obtain ⟨succeeds, looksUp⟩ :=
    (findChild_gives_first_rendered "B").2 repeatedElement []
  obtain ⟨found, after, succeeded⟩ := succeeds readable
  refine ⟨readable, .mk "" [] [] found, after, succeeded, ?_, ?_⟩
  · exact (looksUp (.mk "" [] [] found) after succeeded).1
  · rw [succeeded] at evaluated
    cases evaluated
    rfl

end Markup
end ComponentOutline
