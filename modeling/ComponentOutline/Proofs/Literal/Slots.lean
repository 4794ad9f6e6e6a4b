import Mathlib.Data.List.Forall2
import Mathlib.Data.List.ReduceOption
import ComponentOutline.Effect
import ComponentOutline.Proofs.Literal.Equations

/-!
# The slots of an array

The commas of an array part its children into slots, and a slot may be left empty.  The
value of an array holds the values of the filled slots in order, so an empty slot is lost
and what stands behind it moves to the front.
-/

namespace ComponentOutline

namespace Node

/-- Whether a node is the anonymous token with this text. -/
def isToken (text : String) (node : Node) : Bool :=
  !node.named && node.kind == text

/-- Whether a child is an element of an array. -/
def isItem (node : Node) : Bool :=
  node.named && !node.isComment

theorem contents_eq_filter_isItem (node : Node) :
    node.contents = node.children.filter isItem :=
  node.contents_eq

end Node

namespace Literal

variable {node : Node}

/-- Leaves a last slot out if it is empty: a comma at the end adds none. -/
def withoutTrailing : List (Option Node) → List (Option Node)
  | [] => []
  | [none] => []
  | slot :: rest => slot :: withoutTrailing rest

/-- The slots of an array with the elements that fill them. -/
def slots (array : Node) : List (Option Node) :=
  withoutTrailing ((array.children.splitOnP (Node.isToken ",")).map (List.find? Node.isItem))

/-- Brackets around elements, commas and comments, with no two elements in one slot. -/
structure IsArrayLiteral (array : Node) : Prop where
  kind : array.kind = "array"
  bracketed : ∃ opening body closing,
    array.children = opening :: (body ++ [closing]) ∧
      opening.isToken "[" = true ∧ closing.isToken "]" = true ∧
      ∀ child ∈ body, child.named = true ∨ child.isToken "," = true
  single : ∀ part ∈ array.children.splitOnP (Node.isToken ","),
    (part.filter Node.isItem).length ≤ 1

/-- As many values as slots, and the value of the element of each slot at its place. -/
structure KeepsPositions (slots : List (Option Node)) (values : List Value) : Prop where
  length_eq : values.length = slots.length
  value_at : ∀ (position : Nat) (item : Node), slots[position]? = some (some item) →
    ∃ value, values[position]? = some value ∧ evaluate item = .ok value

/-! ## Filled slots -/

/-- The empty slot after a trailing comma holds nothing. -/
theorem reduceOption_withoutTrailing (slots : List (Option Node)) :
    (withoutTrailing slots).reduceOption = slots.reduceOption := by
  induction slots using withoutTrailing.induct with
  | case1 => rfl
  | case2 => rfl
  | case3 slot rest filled inductionHypothesis =>
      rw [withoutTrailing]
      · cases slot with
        | none =>
            rw [List.reduceOption_cons_of_none, List.reduceOption_cons_of_none,
              inductionHypothesis]
        | some item =>
            rw [List.reduceOption_cons_of_some, List.reduceOption_cons_of_some,
              inductionHypothesis]
      · exact filled

/-- What is at most one element is found as the first one. -/
theorem toList_find?_isItem
    {part : List Node}
    (single : (part.filter Node.isItem).length ≤ 1) :
    (part.find? Node.isItem).toList = part.filter Node.isItem := by
  rw [← List.head?_filter]
  cases items : part.filter Node.isItem with
  | nil => rfl
  | cons item rest =>
      rw [items, List.length_cons] at single
      obtain rfl : rest = [] := List.eq_nil_of_length_eq_zero (by omega)
      rfl

/-- Where each slot has one item at most, the filled slots are the items. -/
theorem reduceOption_map_find?
    {parts : List (List Node)}
    (single : ∀ part ∈ parts, (part.filter Node.isItem).length ≤ 1) :
    (parts.map (List.find? Node.isItem)).reduceOption =
      parts.flatMap (List.filter Node.isItem) := by
  induction parts with
  | nil => rfl
  | cons part rest inductionHypothesis =>
      obtain ⟨first, others⟩ := List.forall_mem_cons.mp single
      rw [List.map_cons, ← List.singleton_append, List.reduceOption_append,
        List.reduceOption_singleton, toList_find?_isItem first, inductionHypothesis others,
        List.flatMap_cons]

/-- The parts between the commas hold all elements, in order. -/
theorem flatMap_splitOnP (children : List Node) :
    (children.splitOnP (Node.isToken ",")).flatMap (List.filter Node.isItem) =
      children.filter Node.isItem := by
  induction children with
  | nil => rfl
  | cons child rest inductionHypothesis =>
      rw [List.splitOnP_cons_eq_if_modifyHead, List.filter_cons]
      split
      · next isComma =>
          have noItem : ¬ child.isItem = true := by
            unfold Node.isToken at isComma
            unfold Node.isItem
            simp_all
          rw [List.flatMap_cons, inductionHypothesis, if_neg noItem]
          rfl
      · obtain ⟨part, parts, split⟩ :=
          List.exists_cons_of_ne_nil (List.splitOnP_ne_nil (Node.isToken ",") rest)
        rw [split, List.flatMap_cons] at inductionHypothesis
        rw [split, List.modifyHead_cons, List.flatMap_cons, List.filter_cons,
          ← inductionHypothesis]
        split
        · rfl
        · rfl

/-- The elements of an array are the contents of its filled slots. -/
theorem reduceOption_slots (shape : IsArrayLiteral node) :
    (slots node).reduceOption = node.contents := by
  rw [slots, reduceOption_withoutTrailing, reduceOption_map_find? shape.single,
    flatMap_splitOnP, node.contents_eq_filter_isItem]

/-! ## Values at their places -/

/-- A list that evaluates has the value of each item at its position. -/
theorem forall₂_of_mapM_evaluate
    {items : List Node}
    {values : List Value}
    (evaluated : items.mapM evaluate = .ok values) :
    List.Forall₂ (fun item value => evaluate item = .ok value) items values := by
  induction items generalizing values with
  | nil =>
      cases evaluated
      exact .nil
  | cons item rest inductionHypothesis =>
      rw [List.mapM_cons] at evaluated
      obtain ⟨value, first, evaluated⟩ := Effect.ok_of_except_bind evaluated
      obtain ⟨others, further, evaluated⟩ := Effect.ok_of_except_bind evaluated
      cases evaluated
      exact .cons first (inductionHypothesis further)

/-- Where every slot is filled, each value is at the place of its slot. -/
theorem keepsPositions_of_filled
    {slots : List (Option Node)}
    {values : List Value}
    (filled : none ∉ slots)
    (evaluated : List.Forall₂ (fun item value => evaluate item = .ok value)
      slots.reduceOption values) :
    KeepsPositions slots values := by
  induction slots generalizing values with
  | nil =>
      cases evaluated
      exact ⟨rfl, nofun⟩
  | cons slot rest inductionHypothesis =>
      rw [List.mem_cons, not_or] at filled
      cases slot with
      | none => exact absurd rfl filled.1
      | some item =>
          rw [List.reduceOption_cons_of_some] at evaluated
          cases evaluated with
          | @cons _ value _ others first further =>
              have kept := inductionHypothesis filled.2 further
              refine ⟨congrArg (· + 1) kept.length_eq, ?_⟩
              intro position other isSlot
              cases position with
              | zero =>
                  cases isSlot
                  exact ⟨value, rfl, first⟩
              | succ position => exact kept.value_at position other isSlot

/-- The value of an array holds the values of its filled slots, in order, and is shorter
than the array by the slots that are empty.  So it keeps the places of the slots exactly if
none of them is empty. -/
theorem values_of_filled_slots
    {values : List Value}
    (shape : IsArrayLiteral node)
    (evaluated : evaluate node = .ok (.list values)) :
    List.Forall₂ (fun item value => evaluate item = .ok value)
        (slots node).reduceOption values ∧
      (slots node).length = values.length + ((slots node).filter Option.isNone).length ∧
      (KeepsPositions (slots node) values ↔ none ∉ slots node) := by
  rw [evaluate_of_array shape.kind] at evaluated
  obtain ⟨found, read, isList⟩ := Effect.ok_of_except_map evaluated
  cases isList
  have pointwise := forall₂_of_mapM_evaluate read
  rw [← reduceOption_slots shape] at pointwise
  have counted : (slots node).length =
      values.length + ((slots node).filter Option.isNone).length := by
    rw [← pointwise.length_eq]
    exact List.length_eq_reduceOption_length_add_filter_none
  refine ⟨pointwise, counted, ?_, fun filled => keepsPositions_of_filled filled pointwise⟩
  intro kept isEmpty
  have lost : none ∈ (slots node).filter Option.isNone :=
    List.mem_filter.mpr ⟨isEmpty, rfl⟩
  have positive := List.length_pos_of_mem lost
  have same := kept.length_eq
  omega

/-- The tree of the array `[true,,false]`, with an empty slot in the middle. -/
def sparseArray : Node :=
  .inLine 0 true "array" none "[true,,false]" [
    .inLine 0 false "[" none "[" [],
    .inLine 1 true "true" none "true" [],
    .inLine 5 false "," none "," [],
    .inLine 6 false "," none "," [],
    .inLine 7 true "false" none "false" [],
    .inLine 12 false "]" none "]" []]

theorem isArrayLiteral_sparseArray : IsArrayLiteral sparseArray where
  kind := rfl
  bracketed :=
    ⟨_, [.inLine 1 true "true" none "true" [], .inLine 5 false "," none "," [],
      .inLine 6 false "," none "," [], .inLine 7 true "false" none "false" []], _, rfl,
      by decide, by decide, by decide⟩
  single := by decide

theorem evaluate_sparseArray :
    evaluate sparseArray = .ok (.list [.bool true, .bool false]) := rfl

/-- The array has a slot more than its value has items, so the places are not kept. -/
theorem values_of_filled_slots_sparseArray :
    (slots sparseArray).length = 2 + 1 ∧
      ¬ KeepsPositions (slots sparseArray) [.bool true, .bool false] := by
  obtain ⟨-, counted, keeps⟩ :=
    values_of_filled_slots isArrayLiteral_sparseArray evaluate_sparseArray
  have isEmpty : none ∈ slots sparseArray :=
    List.mem_of_getElem? (show (slots sparseArray)[1]? = some none from rfl)
  exact ⟨counted, fun kept => keeps.mp kept isEmpty⟩

/-- Not every array keeps the places of its elements. -/
theorem not_forall_array_keeps_positions :
    ¬ ∀ (node : Node) (values : List Value),
      IsArrayLiteral node → evaluate node = .ok (.list values) →
        KeepsPositions (slots node) values := by
  intro always
  have kept := always sparseArray _ isArrayLiteral_sparseArray evaluate_sparseArray
  have same : 2 = 3 := kept.length_eq
  omega

end Literal
end ComponentOutline
