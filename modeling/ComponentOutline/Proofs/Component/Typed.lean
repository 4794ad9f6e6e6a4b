import ComponentOutline.Proofs.Component.Similar
import ComponentOutline.Proofs.Syntax.Typed

/-!
# The class pattern in both dialects

A tree of the plain dialect and the same tree in the typed dialect give the same
component.  The superclass is found in both, a field is named in both, and the clause
around a superclass is walked through.  An extraction by the class pattern is thus the
same computation on both trees, with the same outline or failure and the same log.
-/

namespace ComponentOutline
namespace Node

variable {cover : Label → Label}

/-! ## Heritages -/

/-- A superclass gets the clause that the typed dialect puts around it. -/
theorem typedPart_of_heritage (child : Node) :
    typedPart cover "class_heritage" (typed cover child) =
      if child.named && !child.isComment then extendsClause cover (typed cover child)
      else typed cover child := by
  unfold typedPart
  rw [named_typed, isComment_typed]
  rfl

/-- The heritage of the typed dialect holds its contents in clauses. -/
theorem contents_typed_heritage
    {heritage : Node}
    (kind : heritage.kind = "class_heritage") :
    (typed cover heritage).contents =
      heritage.contents.map fun base => extendsClause cover (typed cover base) := by
  rw [contents_eq, contents_eq, children_typed, kind, List.filter_map]
  have sameContents :
      (heritage.children.filter
        ((fun child => child.named && !child.isComment) ∘ fun child =>
          typedPart cover "class_heritage" (typed cover child))) =
        heritage.children.filter fun child => child.named && !child.isComment := by
    apply List.filter_congr
    intro child _
    rw [Function.comp_apply, typedPart_of_heritage]
    cases content : child.named && !child.isComment with
    | true => rfl
    | false =>
        rw [if_neg Bool.false_ne_true, named_typed, isComment_typed]
        exact content
  rw [sameContents]
  apply List.map_congr_left
  intro child isContent
  rw [typedPart_of_heritage, if_pos (List.mem_filter.mp isContent).2]

/-- The value of the clause around a superclass is the superclass. -/
theorem requireField_extendsClause
    {base : Node}
    (present : base.missing = false) :
    (extendsClause cover base).requireField "value" = .ok (base.under (some "value")) := by
  have sameMissing : (base.under (some "value")).missing = false :=
    (base.sameFace_under _).missing.symm.trans present
  have held : (extendsClause cover base).child? "value" = some (base.under (some "value")) := by
    cases base with
    | mk label children => rfl
  unfold requireField
  rw [held]
  simp only
  rw [sameMissing]
  rfl

/-- The superclass in a heritage is found in both dialects. -/
theorem superclass_of_retyped
    {first second : Node}
    (retyped : first.Retyped cover second) :
    Agree (Option.Rel (Retyped cover)) (Class.superclass first) (Class.superclass second) := by
  have sameHeritage :
      (second.namedChildren.find? fun child => child.kind == "class_heritage") =
        (first.namedChildren.find? fun child => child.kind == "class_heritage").map
          (typed cover) := by
    rw [retyped.namedChildren, List.find?_map]
    congr 2
    funext child
    exact kind_typed_beq child (by decide)
  unfold Class.superclass
  rw [sameHeritage]
  cases inherited : first.namedChildren.find? fun child => child.kind == "class_heritage" with
  | none => exact .ok .none
  | some heritage =>
      have isHeritage := List.find?_some inherited
      have kind : heritage.kind = "class_heritage" := beq_iff_eq.mp isHeritage
      have plain := retyped.plain.of_mem_namedChildren (List.mem_of_find?_eq_some inherited)
      obtain ⟨base, single⟩ := List.length_eq_one_iff.mp (plain.here.single_of_heritage kind)
      have isContent : base ∈ heritage.contents := by
        rw [single]
        exact List.mem_singleton_self base
      obtain ⟨noExtends, noImplements⟩ := plain.here.base_of_heritage kind base isContent
      have plainBase := plain.of_mem_contents isContent
      -- a heritage is no class, so that its superclass is neither a heritage nor a field
      have shared : base.isDialectal = false :=
        plain.here.isDialectal_child (isClassPart_eq_false isHeritage (by decide))
          (mem_children_of_mem_contents isContent)
      have present : (typed cover base).missing = false := by
        rw [missing_typed]
        exact plainBase.here.present
      have bare : ([base].find? fun clause => clause.kind == "extends_clause") = none := by
        simpa using noExtends
      have clause :
          ([extendsClause cover (typed cover base)].find? fun clause =>
            clause.kind == "extends_clause") =
            some (extendsClause cover (typed cover base)) := rfl
      simp only [Option.map_some, contents_typed_heritage kind, single, List.map_cons,
        List.map_nil, bare, clause, List.head?_cons, requireField_extendsClause present]
      rw [if_neg (by simpa using noImplements)]
      exact .ok (.some ((retyped_typed plainBase shared).under _))

/-! ## Fields -/

theorem typedPart_of_field (child : Node) :
    typedPart cover "field_definition" (typed cover child) =
      if child.label.field == some "property" then (typed cover child).under (some "name")
      else typed cover child := by
  unfold typedPart
  rw [field_typed]
  rfl

theorem field_under (node : Node) (field : Option String) :
    (node.under field).label.field = field := by
  cases node with
  | mk label children => rfl

theorem field_typedPart (child : Node) :
    (typedPart cover "field_definition" (typed cover child)).label.field =
      if child.label.field == some "property" then some "name" else child.label.field := by
  rw [typedPart_of_field]
  split
  · exact field_under _ _
  · exact field_typed child

/-- What a class field holds in the typed dialect is looked up among the same
children. -/
theorem child?_typed_field
    {node : Node}
    (kind : node.kind = "field_definition")
    (field : String) :
    (typed cover node).child? field =
      (node.children.find? fun child =>
        (if child.label.field == some "property" then some "name" else child.label.field) ==
          some field).map fun child =>
            typedPart cover "field_definition" (typed cover child) := by
  rw [child?, children_typed, kind, List.find?_map]
  congr 2
  funext child
  rw [Function.comp_apply, field_typedPart]

theorem value_typed_field
    {node : Node}
    (kind : node.kind = "field_definition") :
    (typed cover node).child? "value" = (node.child? "value").map (typed cover) := by
  have sameSearch :
      (node.children.find? fun child =>
        (if child.label.field == some "property" then some "name" else child.label.field) ==
          some "value") = node.child? "value" := by
    rw [child?]
    congr 1
    funext child
    split
    · next isProperty =>
        rw [beq_iff_eq.mp isProperty]
        rfl
    · rfl
  rw [child?_typed_field kind, sameSearch]
  cases found : node.child? "value" with
  | none => rfl
  | some child =>
      have isValue := List.find?_some found
      rw [Option.map_some, Option.map_some, typedPart_of_field, beq_iff_eq.mp isValue]
      rfl

/-- A class field is named by its property in one dialect and by its name in the
other. -/
theorem fieldName?_typed
    {node : Node}
    (kind : node.kind = "field_definition")
    (unnamed : (node.child? "name").isNone = true) :
    Option.Rel SameName (Class.fieldName? node) (Class.fieldName? (typed cover node)) := by
  rw [Option.isNone_iff_eq_none] at unnamed
  have noProperty : (typed cover node).child? "property" = none := by
    rw [child?_typed_field kind, Option.map_eq_none_iff, List.find?_eq_none]
    intro child _
    split
    · decide
    · next noProperty => exact noProperty
  have sameSearch :
      (node.children.find? fun child =>
        (if child.label.field == some "property" then some "name" else child.label.field) ==
          some "name") = node.child? "property" := by
    rw [child?, ← List.head?_filter, ← List.head?_filter]
    congr 1
    apply List.filter_congr
    intro child isChild
    have noName := List.find?_eq_none.mp unnamed child isChild
    split
    · next isProperty =>
        rw [isProperty]
        rfl
    · next noProperty =>
        rw [Bool.eq_false_iff.mpr noName, Bool.eq_false_iff.mpr noProperty]
  unfold Class.fieldName?
  rw [noProperty, unnamed, child?_typed_field kind, sameSearch]
  cases found : node.child? "property" with
  | none => exact .none
  | some child =>
      have isProperty := List.find?_some found
      rw [Option.map_some, typedPart_of_field, if_pos isProperty]
      have same : SameName child (typed cover child) := sameName_typed child
      have sameToo := ((typed cover child).sameFace_under (some "name")).sameName
      exact .some ⟨same.missing.trans sameToo.missing, same.readText.trans sameToo.readText⟩

/-- Inside of a class, a plain field has the effect that it has with types. -/
theorem enterField_typed
    {node : Node}
    (plain : node.Everywhere IsPlain)
    (kind : node.kind = "field_definition") :
    Class.enterField node = Class.enterField (typed cover node) := by
  apply (Retyped.similarity cover).enterField_eq
  · rw [value_typed_field kind]
    cases found : node.child? "value" with
    | none => exact .none
    | some child =>
        have isChild := List.mem_of_find?_eq_some found
        have noClassPart := isClassPart_eq_false (beq_iff_eq.mpr kind) (by decide)
        apply Option.Rel.some
        exact retyped_typed (plain.of_mem_children isChild)
          (plain.here.isDialectal_child noClassPart isChild)
  · exact fieldName?_typed kind (plain.here.unnamed_of_field kind)

/-! ## The walk -/

theorem named_typedPart (parent : String) (child : Node) :
    (typedPart cover parent (typed cover child)).named = child.named := by
  unfold typedPart
  split
  · split
    · next content =>
        rw [named_typed, Bool.and_eq_true] at content
        exact content.1.symm
    · exact named_typed child
  · split
    · cases relabelled : typed cover child with
      | mk label children =>
          rw [← named_typed child, relabelled]
          rfl
    · exact named_typed child

/-- However a child is held, its walk is the same; the clause around a superclass is
walked through. -/
theorem visit_typedPart
    {options : ClassOptions}
    {child : Node}
    (walked : ∀ field,
      Walk.visit (Class.handlers options) child =
        Walk.visit (Class.handlers options) ((typed cover child).under field))
    (parent : String) :
    Walk.visit (Class.handlers options) child =
      Walk.visit (Class.handlers options) (typedPart cover parent (typed cover child)) := by
  have walkedAlone :
      Walk.visit (Class.handlers options) child =
        Walk.visit (Class.handlers options) (typed cover child) := by
    have self := walked (typed cover child).label.field
    rwa [under_self] at self
  unfold typedPart
  split
  · split
    · next content =>
        rw [Bool.and_eq_true] at content
        have below : (extendsClause cover (typed cover child)).namedChildren =
            [(typed cover child).under (some "value")] := by
          cases relabelled : typed cover child with
          | mk label children =>
              rw [relabelled] at content
              have isNamed : label.named = true := content.1
              simp [extendsClause, namedChildren, under, named, isNamed]
        have unhandled :
            Class.handlers options (extendsClause cover (typed cover child)).kind = none := rfl
        rw [Walk.visit_of_unhandled unhandled, below, walked (some "value")]
        simp
    · exact walkedAlone
  · split
    · exact walked (some "name")
    · exact walkedAlone

/-- A walk over typed parts is a walk over the parts, if each part is walked alike. -/
theorem forM_typedPart
    {options : ClassOptions}
    {parent : String}
    {children : List Node}
    (walked : ∀ child ∈ children,
      Walk.visit (Class.handlers options) child =
        Walk.visit (Class.handlers options) (typedPart cover parent (typed cover child))) :
    (forM (children.filter named) (Walk.visit (Class.handlers options)) : Extracting Unit) =
      forM
        ((children.map fun child => typedPart cover parent (typed cover child)).filter named)
        (Walk.visit (Class.handlers options)) := by
  induction children with
  | nil => rfl
  | cons child rest inductionHypothesis =>
      obtain ⟨here, later⟩ := List.forall_mem_cons.mp walked
      rw [List.map_cons, List.filter_cons, List.filter_cons, named_typedPart]
      cases child.named with
      | false => exact inductionHypothesis later
      | true =>
          rw [if_pos rfl, if_pos rfl, List.forM_cons, List.forM_cons, here,
            inductionHypothesis later]

/-- A heritage and a field are handled alike in both dialects: the one not at all, the
other by its value and its name. -/
theorem handler_typed_dialectal
    {options : ClassOptions}
    {node : Node}
    (plain : node.Everywhere IsPlain)
    (dialectal : node.isDialectal = true)
    (field : Option String) :
    Class.handlers options node.kind =
        Class.handlers options ((typed cover node).under field).kind ∧
      ∀ handler, Class.handlers options node.kind = some handler →
        handler node = handler ((typed cover node).under field) := by
  have sameKind := ((typed cover node).sameFace_under field).kind
  rw [← sameKind, kind_typed]
  rw [isDialectal, Bool.or_eq_true, beq_iff_eq, beq_iff_eq] at dialectal
  obtain heritage | isField := dialectal
  · rw [heritage]
    refine ⟨rfl, ?_⟩
    intro handler handled
    cases handled
  · rw [isField]
    refine ⟨rfl, ?_⟩
    intro handler handled
    obtain rfl := Option.some.inj handled
    have sameField : Class.enterField ((typed cover node).under field) =
        Class.enterField (typed cover node) := by
      cases typed cover node with
      | mk label children => rfl
    rw [sameField]
    exact enterField_typed plain isField

/-- A tree is walked by the class pattern alike in both dialects. -/
theorem visit_typed
    (cover : Label → Label)
    (options : ClassOptions)
    (node : Node) :
    node.Everywhere IsPlain → ∀ field,
      Walk.visit (Class.handlers options) node =
        Walk.visit (Class.handlers options) ((typed cover node).under field) := by
  induction node using Node.induction with
  | step label children inductionHypothesis =>
      intro plain field
      have below :
          (forM (Node.mk label children).namedChildren
              (Walk.visit (Class.handlers options)) : Extracting Unit) =
            forM ((typed cover (.mk label children)).under field).namedChildren
              (Walk.visit (Class.handlers options)) := by
        rw [namedChildren, namedChildren, children_under, children_typed]
        apply forM_typedPart
        intro child isChild
        exact visit_typedPart
          (inductionHypothesis child isChild (plain.of_mem_children isChild)) _
      cases dialectal : (Node.mk label children).isDialectal with
      | true =>
          obtain ⟨sameHandler, handledAlike⟩ := handler_typed_dialectal plain dialectal field
          exact Walk.visit_eq sameHandler handledAlike below
      | false =>
          have retyped :
              (Node.mk label children).Retyped cover
                ((typed cover (.mk label children)).under field) :=
            (retyped_typed plain dialectal).under field
          apply Walk.visit_eq _ _ below
          · rw [retyped.sameFace.kind]
          · intro handler handled
            exact (Retyped.similarity cover).classHandler_eq retyped
              (fun _ => superclass_of_retyped retyped) handled

end Node

namespace Extraction

/-- An extraction by the class pattern is the same computation on a tree of the plain
dialect and on the same tree in the typed dialect. -/
theorem byPattern_typed_eq
    {root : Node}
    (plain : root.Everywhere Node.IsPlain)
    (cover : Label → Label)
    (settings : Settings) :
    byPattern settings .classDeclaration (root.typed cover) =
      byPattern settings .classDeclaration root := by
  have walked : ∀ options,
      Class.extract options (root.typed cover) = Class.extract options root := by
    intro options
    apply Extracting.extract_eq
    have self := Node.visit_typed cover options root plain (root.typed cover).label.field
    rw [Node.under_self] at self
    exact self.symm
  unfold byPattern
  simp only [Pattern.search, walked]

/-- The tree of `var A = class extends React.Component {state = {a: 1}}` in the plain
dialect. -/
def plainTree : Node :=
  .ofText "variable_declarator" none "" [
    .ofText "identifier" (some "name") "A" [],
    .ofText "class" (some "value") "" [
      .ofText "class_heritage" none "" [
        .ofText "member_expression" none "React.Component" [
          .ofText "identifier" (some "object") "React" [],
          .ofText "property_identifier" (some "property") "Component" []]],
      .ofText "class_body" (some "body") "" [
        .ofText "field_definition" none "" [
          .ofText "property_identifier" (some "property") "state" [],
          .ofText "object" (some "value") "" [
            .ofText "pair" none "" [
              .ofText "property_identifier" (some "key") "a" [],
              .ofText "number" (some "value") "1" []]]]]]]

theorem byPattern_typed_eq_plainTree :
    byPattern .default .classDeclaration (plainTree.typed id) =
      byPattern .default .classDeclaration plainTree :=
  byPattern_typed_eq (by decide +kernel) id .default

end Extraction
end ComponentOutline
