import ComponentOutline.Proofs.Syntax.Similar

/-!
# Classes in the typed dialect

The grammars of the two dialects write a class differently.  In the plain dialect the
superclass stands right in the heritage of the class, and a field is a
`field_definition` that is named by its `property`.  In the typed dialect the superclass is the
value of an `extends_clause`, and a field is a `public_field_definition` that is named by
its `name`.  A tree of the plain dialect is similar to the tree of the typed one, apart
from heritages and fields themselves.
-/

namespace ComponentOutline
namespace Node

/-- A node under another field. -/
def under (field : Option String) : Node → Node
  | .mk label children => .mk { label with field := field } children

/-- The clause around a superclass.  Nothing depends on the place of the clause. -/
def extendsClause (cover : Label → Label) (base : Node) : Node :=
  .mk { cover base.label with kind := "extends_clause", named := true, field := none }
    [base.under (some "value")]

/-- The label of a node in the typed dialect. -/
def typedLabel (label : Label) : Label :=
  if label.kind == "field_definition" then
    { label with kind := "public_field_definition" }
  else label

/-- How a node of a given kind holds a child in the typed dialect: a heritage holds its
superclass in a clause, and a field holds its property under another name. -/
def typedPart (cover : Label → Label) (parent : String) (child : Node) : Node :=
  if parent == "class_heritage" then
    if child.named && !child.isComment then extendsClause cover child else child
  else if parent == "field_definition" && child.label.field == some "property" then
    child.under (some "name")
  else child

mutual

/-- A tree in the typed dialect; `cover` says where the clauses are. -/
def typed (cover : Label → Label) : Node → Node
  | .mk label children => .mk (typedLabel label) (typedIn cover label.kind children)

/-- The children of a node of a given kind in the typed dialect. -/
def typedIn (cover : Label → Label) (parent : String) : List Node → List Node
  | [] => []
  | child :: rest => typedPart cover parent (typed cover child) :: typedIn cover parent rest

end

/-- A node is written in the plain dialect.  Nothing is missing; heritages stand in
classes and fields in bodies; a heritage has one part, which is no clause; and a field
has no name apart from its property. -/
structure IsPlain (node : Node) : Prop where
  present : node.missing = false
  class_of_heritage : ∀ child ∈ node.children, child.kind = "class_heritage" →
    node.kind = "class_declaration" ∨ node.kind = "class"
  body_of_field : ∀ child ∈ node.children, child.kind = "field_definition" →
    node.kind = "class_body"
  single_of_heritage : node.kind = "class_heritage" → node.contents.length = 1
  base_of_heritage : node.kind = "class_heritage" →
    ∀ base ∈ node.contents, base.kind ≠ "extends_clause" ∧ base.kind ≠ "implements_clause"
  unnamed_of_field : node.kind = "field_definition" → (node.child? "name").isNone = true

instance (node : Node) : Decidable node.IsPlain :=
  decidable_of_iff
    (node.missing = false ∧
      (∀ child ∈ node.children, child.kind = "class_heritage" →
        node.kind = "class_declaration" ∨ node.kind = "class") ∧
      (∀ child ∈ node.children, child.kind = "field_definition" → node.kind = "class_body") ∧
      (node.kind = "class_heritage" → node.contents.length = 1) ∧
      (node.kind = "class_heritage" →
        ∀ base ∈ node.contents,
          base.kind ≠ "extends_clause" ∧ base.kind ≠ "implements_clause") ∧
      (node.kind = "field_definition" → (node.child? "name").isNone = true))
    ⟨fun ⟨present, heritage, field, single, base, unnamed⟩ =>
        ⟨present, heritage, field, single, base, unnamed⟩,
      fun ⟨present, heritage, field, single, base, unnamed⟩ =>
        ⟨present, heritage, field, single, base, unnamed⟩⟩

/-- Whether a node is a heritage or a field, which the dialects write differently. -/
def isDialectal (node : Node) : Bool :=
  node.kind == "class_heritage" || node.kind == "field_definition"

/-- Outside of classes, neither heritages nor fields are children. -/
theorem IsPlain.isDialectal_child
    {node child : Node}
    (plain : node.IsPlain)
    (outside : node.isClassPart = false)
    (isChild : child ∈ node.children) :
    child.isDialectal = false := by
  rw [isDialectal, Bool.or_eq_false_iff, beq_eq_false_iff_ne, beq_eq_false_iff_ne]
  constructor
  · intro heritage
    obtain isDeclaration | isExpression := plain.class_of_heritage child isChild heritage
    · simp [isClassPart, isDeclaration] at outside
    · simp [isClassPart, isExpression] at outside
  · intro field
    have isBody := plain.body_of_field child isChild field
    simp [isClassPart, isBody] at outside

/-- A node of the plain dialect, other than a heritage or a field, becomes another in the
typed dialect, under whatever field. -/
structure Retyped (cover : Label → Label) (first second : Node) : Prop where
  sameFace : first.SameFace second
  children : second.children = first.children.map (typed cover)
  plain : first.Everywhere IsPlain

theorem typedIn_eq (cover : Label → Label) (parent : String) (children : List Node) :
    typedIn cover parent children =
      children.map fun child => typedPart cover parent (typed cover child) := by
  induction children with
  | nil => rfl
  | cons child rest inductionHypothesis => rw [typedIn, inductionHypothesis, List.map_cons]

section

variable {cover : Label → Label} (node : Node)

/-- The children of a typed node are typed parts of the children. -/
theorem children_typed :
    (typed cover node).children =
      node.children.map fun child => typedPart cover node.kind (typed cover child) := by
  cases node with
  | mk label children =>
      rw [typed, children_mk, typedIn_eq]
      rfl

theorem label_typed : (typed cover node).label = typedLabel node.label := by
  cases node with
  | mk label children => rfl

@[simp] theorem named_typed : (typed cover node).named = node.named := by
  rw [named, label_typed, typedLabel]
  split
  · rfl
  · rfl

@[simp] theorem missing_typed : (typed cover node).missing = node.missing := by
  rw [missing, label_typed, typedLabel]
  split
  · rfl
  · rfl

@[simp] theorem field_typed : (typed cover node).label.field = node.label.field := by
  rw [label_typed, typedLabel]
  split
  · rfl
  · rfl

/-- Only fields are of another kind in the typed dialect. -/
theorem kind_typed :
    (typed cover node).kind =
      if node.kind == "field_definition" then "public_field_definition" else node.kind := by
  rw [kind, label_typed, typedLabel]
  change _ = if node.label.kind == "field_definition" then _ else _
  split
  · rfl
  · rfl

/-- Whether a node is of a kind, other than that of fields, is the same in both
dialects. -/
theorem kind_typed_beq
    {wanted : String}
    (noField : (wanted == "field_definition" || wanted == "public_field_definition") = false) :
    ((typed cover node).kind == wanted) = (node.kind == wanted) := by
  rw [Bool.or_eq_false_iff] at noField
  rw [kind_typed]
  cases field : node.kind == "field_definition" with
  | false => rfl
  | true =>
      rw [if_pos rfl, beq_iff_eq.mp field, BEq.comm, noField.2, BEq.comm, noField.1]

@[simp] theorem isComment_typed : (typed cover node).isComment = node.isComment :=
  kind_typed_beq node (by decide)

theorem isAttribute_typed : (typed cover node).isAttribute = node.isAttribute :=
  kind_typed_beq node (by decide)

/-- Types leave the name that a node can stand for. -/
theorem sameName_typed : node.SameName (typed cover node) := by
  refine ⟨(missing_typed node).symm, ?_⟩
  rw [readText, readText, text, text, label_typed, typedLabel]
  split
  · rfl
  · rfl

@[simp] theorem children_under (field : Option String) :
    (node.under field).children = node.children := by
  cases node with
  | mk label children => rfl

theorem under_self : node.under node.label.field = node := by
  cases node with
  | mk label children => rfl

theorem sameFace_under (field : Option String) : node.SameFace (node.under field) := by
  cases node with
  | mk label children => exact ⟨rfl, rfl, rfl, rfl, rfl⟩

end

/-- The typed dialect writes a node like the plain one, apart from heritages and
fields. -/
theorem retyped_typed
    {cover : Label → Label}
    {node : Node}
    (plain : node.Everywhere IsPlain)
    (shared : node.isDialectal = false) :
    node.Retyped cover (typed cover node) := by
  rw [isDialectal, Bool.or_eq_false_iff] at shared
  obtain ⟨noHeritage, noField⟩ := shared
  have sameLabel : (typed cover node).label = node.label := by
    rw [label_typed, typedLabel, if_neg]
    change ¬ (node.kind == "field_definition") = true
    simp [noField]
  refine ⟨?_, ?_, plain⟩
  · refine ⟨?_, ?_, ?_, ?_, ?_⟩
    · rw [kind, kind, sameLabel]
    · rw [missing, missing, sameLabel]
    · rw [line, line, sameLabel]
    · rw [column, column, sameLabel]
    · rw [sameLabel]
  · rw [children_typed]
    simp [typedPart, noHeritage, noField]

namespace Retyped

variable {cover : Label → Label} {first second : Node}

theorem under (retyped : first.Retyped cover second) (field : Option String) :
    first.Retyped cover (second.under field) := by
  have same := retyped.sameFace
  have sameToo := second.sameFace_under field
  refine ⟨?_, ?_, retyped.plain⟩
  · exact ⟨same.kind.trans sameToo.kind, same.missing.trans sameToo.missing,
      same.line.trans sameToo.line, same.column.trans sameToo.column,
      same.bytes.trans sameToo.bytes⟩
  · rw [children_under, retyped.children]

theorem namedChildren (retyped : first.Retyped cover second) :
    second.namedChildren = first.namedChildren.map (typed cover) := by
  rw [Node.namedChildren, retyped.children, List.filter_map]
  congr 1
  apply List.filter_congr
  intro child _
  exact named_typed child

/-- The contents of a retyped node are typed one by one. -/
theorem contents (retyped : first.Retyped cover second) :
    second.contents = first.contents.map (typed cover) := by
  rw [Node.contents, retyped.namedChildren, List.filter_map]
  congr 1
  apply List.filter_congr
  intro child _
  rw [Function.comp_apply, isComment_typed]

/-- The child with a field is typed, too. -/
theorem child? (retyped : first.Retyped cover second) (field : String) :
    second.child? field = (first.child? field).map (typed cover) := by
  rw [Node.child?, retyped.children, List.find?_map]
  congr 2
  funext child
  rw [Function.comp_apply, field_typed]

/-- Outside of classes, the children are written alike in the two dialects. -/
theorem child_retyped
    (retyped : first.Retyped cover second)
    (outside : first.isClassPart = false)
    {child : Node}
    (isChild : child ∈ first.children) :
    child.Retyped cover (typed cover child) :=
  retyped_typed (retyped.plain.of_mem_children isChild)
    (retyped.plain.here.isDialectal_child outside isChild)

/-- The change of the dialect is a similarity. -/
theorem similarity (cover : Label → Label) : Similarity (Retyped cover) where
  sameFace := fun retyped => retyped.sameFace
  child := fun {first second} field retyped outside => by
    rw [retyped.child?]
    cases found : first.child? field with
    | none => exact .none
    | some child =>
        exact .some (retyped.child_retyped outside (List.mem_of_find?_eq_some found))
  contents := fun retyped outside => by
    rw [retyped.contents, List.forall₂_map_right_iff, List.forall₂_same]
    intro child isContent
    exact retyped.child_retyped outside (mem_children_of_mem_contents isContent)
  head := fun {first second} retyped wraps => by
    have outside : first.isClassPart = false := by
      rw [Bool.or_eq_true] at wraps
      obtain wrapper | isOne := wraps
      · exact isClassPart_of_isWrapper wrapper
      · exact isClassPart_eq_false isOne (by decide)
    rw [retyped.namedChildren, List.head?_map]
    cases headed : first.namedChildren.head? with
    | none => exact .none
    | some child =>
        exact .some (retyped.child_retyped outside
          (List.mem_filter.mp (List.mem_of_mem_head? headed)).1)
  name := fun {first second} retyped => by
    rw [retyped.child?]
    cases first.child? "name" with
    | none => exact .none
    | some child => exact .some (sameName_typed child)
  attributes := fun {first second} retyped => by
    rw [retyped.namedChildren, List.filter_map, List.forall₂_map_right_iff]
    have sameAttributes :
        first.namedChildren.filter (isAttribute ∘ typed cover) =
          first.namedChildren.filter isAttribute := by
      apply List.filter_congr
      intro child _
      exact isAttribute_typed child
    rw [sameAttributes, List.forall₂_same]
    intro child isMember
    obtain ⟨isNamed, isOne⟩ := List.mem_filter.mp isMember
    apply retyped_typed (retyped.plain.of_mem_namedChildren isNamed)
    have kind : child.kind = "jsx_attribute" := by simpa [isAttribute] using isOne
    simp [isDialectal, kind]

end Retyped

end Node
end ComponentOutline
