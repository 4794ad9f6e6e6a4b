import ComponentOutline.Proofs.Component.Similar
import ComponentOutline.Proofs.Syntax.Comments

/-!
# Comments do not matter

If the comments of a tree stand aside, any of them may be dropped: an extraction by
either pattern is the same computation, with the same outline or failure and the same
log, the pattern that is guessed is the same, and so are the values of all nodes that are
no comments.
-/

namespace ComponentOutline

namespace Node
namespace Uncommented

variable {first second : Node}

/-- A comment that stands aside has nothing to walk. -/
theorem visit_comment
    {handlers : Walk.Handlers Progress Failure}
    (unhandled : handlers "comment" = none)
    {node : Node}
    (aside : node.KeepsCommentsAside)
    (comment : node.isComment = true) :
    Walk.visit handlers node = pure () := by
  have kind : node.kind = "comment" := beq_iff_eq.mp comment
  rw [Walk.visit_of_unhandled (kind.symm ▸ unhandled), Node.namedChildren,
    aside.children_of_isComment comment]
  rfl

/-- A walk is the same without some of the comments if the handlers are. -/
theorem visit_eq
    {handlers : Walk.Handlers Progress Failure}
    (unhandled : handlers "comment" = none)
    (handledAlike : ∀ {first second : Node} {handler},
      first.Uncommented second → handlers first.kind = some handler →
        handler first = handler second)
    (first : Node) :
    ∀ second, first.Uncommented second →
      Walk.visit handlers first = Walk.visit handlers second := by
  induction first using Node.induction with
  | step label children inductionHypothesis =>
      intro second uncommented
      apply Walk.visit_eq
      · rw [uncommented.drops.sameFace.kind]
      · intro handler handled
        exact handledAlike uncommented handled
      · apply uncommented.namedChildren.forM_eq
        · intro child isChild other changed
          exact inductionHypothesis child (List.mem_filter.mp isChild).1 other changed
        · intro child isChild comment
          exact visit_comment unhandled
            (uncommented.aside.of_mem_namedChildren isChild).here comment

/-- A class extends the same without some of the comments. -/
theorem superclass (uncommented : first.Uncommented second) :
    Agree (Option.Rel Uncommented) (Class.superclass first) (Class.superclass second) := by
  have similar := similarity
  unfold Class.superclass
  rw [find?_namedChildren_eq first (by decide), find?_namedChildren_eq second (by decide)]
  obtain ⟨absent, absentToo⟩ | ⟨heritage, heritageToo, found, foundToo, heritages⟩ :=
    rel_cases (forall₂_find? similar.sameFace "class_heritage" uncommented.contents)
  · rw [absent, absentToo]
    exact .ok .none
  · rw [found, foundToo]
    simp only
    obtain ⟨absent, absentToo⟩ | ⟨clause, clauseToo, held, heldToo, clauses⟩ :=
      rel_cases (forall₂_find? similar.sameFace "extends_clause" heritages.contents)
    · rw [absent, absentToo]
      simp only
      obtain ⟨absent, absentToo⟩ | ⟨base, baseToo, headed, headedToo, bases⟩ :=
        rel_cases (forall₂_head? heritages.contents)
      · rw [absent, absentToo]
        exact .ok .none
      · rw [headed, headedToo]
        simp only
        rw [bases.drops.sameFace.kind]
        split
        · exact .ok .none
        · exact .ok (.some bases)
    · rw [held, heldToo]
      have isClause := List.find?_some held
      exact (similar.requireField clauses (isClassPart_eq_false isClause (by decide)) "value").map
        fun _ _ => .some

/-- A search that cannot see comments finds the same. -/
theorem search_eq
    (uncommented : first.Uncommented second)
    (settings : Settings)
    (pattern : Pattern) :
    pattern.search settings first = pattern.search settings second := by
  have byCall : ∀ options, Factory.extract options first = Factory.extract options second := by
    intro options
    apply Extracting.extract_eq
    apply visit_eq rfl _ first second uncommented
    intro node other handler changed handled
    exact similarity.factoryHandler_eq changed handled
  have byClass : ∀ options, Class.extract options first = Class.extract options second := by
    intro options
    apply Extracting.extract_eq
    apply visit_eq rfl _ first second uncommented
    intro node other handler changed handled
    exact similarity.classHandler_eq changed (fun _ => changed.superclass) handled
  cases pattern with
  | factoryCall => simp only [Pattern.search, byCall]
  | classDeclaration => simp only [Pattern.search, byClass]

/-- A program has the same statements that declare something without some of the
comments. -/
theorem detectPattern_eq (uncommented : first.Uncommented second) :
    first.detectPattern = second.detectPattern := by
  have sameStatement : ∀ node other : Node, node.Uncommented other →
      (node.isClassDeclaration || node.isDefaultExport) =
        (other.isClassDeclaration || other.isDefaultExport) := by
    intro node other changed
    have sameKind := changed.drops.sameFace.kind
    have sameExport :
        (node.children.any fun child => child.kind == "default") =
          other.children.any fun child => child.kind == "default" := by
      apply changed.children.any_eq
      · intro child childToo pair
        rw [pair.drops.sameFace.kind]
      · intro child comment
        rw [beq_iff_eq.mp comment]
        decide
    unfold isClassDeclaration isDefaultExport
    rw [sameKind, sameExport]
  have sameDeclaration : first.hasDeclaration = second.hasDeclaration := by
    unfold hasDeclaration statements
    rw [List.any_filter, List.any_filter]
    apply uncommented.namedChildren.any_eq
    · intro node other changed
      rw [sameStatement node other changed, changed.drops.sameFace.kind]
    · intro node comment
      have kind : node.kind = "comment" := beq_iff_eq.mp comment
      simp [kind]
  unfold detectPattern
  rw [sameDeclaration]

end Uncommented
end Node

namespace Extraction

/-- If the comments of a tree stand aside, dropping any of them changes no extraction by a
pattern, neither its result nor its log, nor the guess of the pattern.  The nodes that are
no comments remain, one for one and up to the comments inside of them, with their
values. -/
theorem unchanged_by_dropping_comments
    {root pruned : Node}
    (aside : root.Everywhere Node.KeepsCommentsAside)
    (drops : root.DropsComments pruned) :
    (∀ settings pattern,
        byPattern settings pattern pruned = byPattern settings pattern root) ∧
      pruned.detectPattern = root.detectPattern ∧
      List.Forall₂
        (fun node kept =>
          node.DropsComments kept ∧ Literal.evaluate kept = Literal.evaluate node)
        root.substance pruned.substance := by
  have uncommented : root.Uncommented pruned := ⟨drops, aside⟩
  refine ⟨?_, ?_, ?_⟩
  · intro settings pattern
    unfold byPattern
    rw [uncommented.search_eq]
  · exact uncommented.detectPattern_eq.symm
  · apply (Node.Uncommented.substance root pruned uncommented).imp
    intro node kept changed
    have sameValue := Node.Uncommented.similarity.evaluate_eq_of_related changed
    exact ⟨changed.drops, sameValue.symm⟩

/-- The tree of `class A extends Component {state = {a: 1}}` with the same comments
before the class, its superclass, its field and the member of its state. -/
def commentedTree (comments : List Node) : Node :=
  .ofText "program" none "" (comments ++ [
    .ofText "class_declaration" none "" [
      .ofText "identifier" (some "name") "A" [],
      .ofText "class_heritage" none "" (comments ++ [.ofText "identifier" none "Component" []]),
      .ofText "class_body" (some "body") "" (comments ++ [
        .ofText "field_definition" none "" [
          .ofText "property_identifier" (some "property") "state" [],
          .ofText "object" (some "value") "" (comments ++ [
            .ofText "pair" none "" [
              .ofText "property_identifier" (some "key") "a" [],
              .ofText "number" (some "value") "1" []]])]])]])

/-- A tree with comments in several places, and what is extracted of it without them. -/
theorem unchanged_by_dropping_comments_commentedTree :
    byPattern .default .classDeclaration (commentedTree []) =
      byPattern .default .classDeclaration
        (commentedTree [.ofText "comment" none "/* no literal */" []]) := by
  have drops :
      (commentedTree [.ofText "comment" none "/* no literal */" []]).DropsComments
        (commentedTree []) :=
    .mk _ 0 (.drop rfl (.keep
      (.mk _ 0 (.keep (.refl _) (.keep
        (.mk _ 0 (.drop rfl (.keep (.refl _) .nil))) (.keep
        (.mk _ 0 (.drop rfl (.keep
          (.mk _ 0 (.keep (.refl _) (.keep
            (.mk _ 0 (.drop rfl (.keep (.refl _) .nil))) .nil))) .nil))) .nil)))) .nil))
  exact (unchanged_by_dropping_comments (by decide +kernel) drops).1 .default .classDeclaration

end Extraction
end ComponentOutline
