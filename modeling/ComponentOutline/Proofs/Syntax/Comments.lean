import ComponentOutline.Proofs.Syntax.Similar

/-!
# Trees without some of their comments

A comment may stand anywhere between the parts of a program.  Dropping comments, any
number of them and at any depth, keeps all other nodes, in their order and at their
places.  If the comments stand aside, that is, if they are leaves outside of the fields
and never come first where only the first named child is looked at, then a tree is
similar to what it becomes by dropping comments.
-/

namespace ComponentOutline
namespace Node

/-- A list becomes another by a change of its nodes and by dropping some comments. -/
inductive DropsCommentsFrom (changed : Node → Node → Prop) : List Node → List Node → Prop
  | nil : DropsCommentsFrom changed [] []
  | keep {node other : Node} {nodes others : List Node}
      (kept : changed node other)
      (rest : DropsCommentsFrom changed nodes others) :
      DropsCommentsFrom changed (node :: nodes) (other :: others)
  | drop {node : Node} {nodes others : List Node}
      (comment : node.isComment = true)
      (rest : DropsCommentsFrom changed nodes others) :
      DropsCommentsFrom changed (node :: nodes) others

/-- A tree becomes another by dropping some of the comments inside of it.  The nodes may
be numbered anew. -/
inductive DropsComments : Node → Node → Prop
  | mk (label : Label) (number : Nat) {children kept : List Node}
      (below : DropsCommentsFrom DropsComments children kept) :
      DropsComments (.mk label children) (.mk { label with index := number } kept)

/-- If a node is a comment, it is a leaf and stands under no field.  If it is a wrapper
or an attribute, its first named child is no comment. -/
structure KeepsCommentsAside (node : Node) : Prop where
  children_of_isComment : node.isComment = true → node.children = []
  field_of_isComment : node.isComment = true → node.label.field = none
  head_of_wraps :
    (Literal.isWrapper node.kind || node.isAttribute) = true →
      node.namedChildren.head?.any isComment = false

instance (node : Node) : Decidable node.KeepsCommentsAside :=
  decidable_of_iff
    ((node.isComment = true → node.children.isEmpty = true) ∧
      (node.isComment = true → node.label.field = none) ∧
      ((Literal.isWrapper node.kind || node.isAttribute) = true →
        node.namedChildren.head?.any isComment = false))
    (by
      simp only [List.isEmpty_iff]
      exact ⟨fun ⟨leaf, bare, later⟩ => ⟨leaf, bare, later⟩,
        fun ⟨leaf, bare, later⟩ => ⟨leaf, bare, later⟩⟩)

/-- A tree in which comments stand aside becomes another by dropping comments. -/
structure Uncommented (first second : Node) : Prop where
  drops : first.DropsComments second
  aside : first.Everywhere KeepsCommentsAside

namespace DropsComments

/-- No comment needs to be dropped. -/
theorem refl (node : Node) : node.DropsComments node := by
  induction node using Node.induction with
  | step label children inductionHypothesis =>
      apply mk label label.index
      induction children with
      | nil => exact .nil
      | cons child rest others =>
          obtain ⟨here, later⟩ := List.forall_mem_cons.mp inductionHypothesis
          exact .keep here (others later)

variable {first second : Node}

/-- Dropping comments leaves a node its kind, its place and its text. -/
theorem sameFace (drops : first.DropsComments second) : first.SameFace second := by
  cases drops with
  | mk label number below => exact ⟨rfl, rfl, rfl, rfl, rfl⟩

theorem named_eq (drops : first.DropsComments second) : first.named = second.named := by
  cases drops with
  | mk label number below => rfl

theorem field_eq (drops : first.DropsComments second) :
    first.label.field = second.label.field := by
  cases drops with
  | mk label number below => rfl

theorem isComment_eq (drops : first.DropsComments second) :
    first.isComment = second.isComment := by
  rw [isComment, isComment, drops.sameFace.kind]

end DropsComments

namespace DropsCommentsFrom

variable {changed : Node → Node → Prop} {nodes others : List Node}

/-- A change of the kept nodes may be described by more or by less. -/
theorem imp
    {described : Node → Node → Prop}
    (drops : DropsCommentsFrom changed nodes others)
    (implied : ∀ node ∈ nodes, ∀ other, changed node other → described node other) :
    DropsCommentsFrom described nodes others := by
  induction drops with
  | nil => exact .nil
  | keep kept rest inductionHypothesis =>
      obtain ⟨here, later⟩ := List.forall_mem_cons.mp implied
      exact .keep (here _ kept) (inductionHypothesis later)
  | drop comment rest inductionHypothesis =>
      obtain ⟨-, later⟩ := List.forall_mem_cons.mp implied
      exact .drop comment (inductionHypothesis later)

/-- A filter that treats a node as what it becomes goes along with dropping comments. -/
theorem filter
    (drops : DropsCommentsFrom changed nodes others)
    {keep : Node → Bool}
    (sameKept : ∀ node other, changed node other → keep node = keep other) :
    DropsCommentsFrom changed (nodes.filter keep) (others.filter keep) := by
  induction drops with
  | nil => exact .nil
  | @keep node other _ _ kept rest inductionHypothesis =>
      rw [List.filter_cons, List.filter_cons, sameKept node other kept]
      split
      · exact .keep kept inductionHypothesis
      · exact inductionHypothesis
  | @drop node _ _ comment rest inductionHypothesis =>
      rw [List.filter_cons]
      split
      · exact .drop comment inductionHypothesis
      · exact inductionHypothesis

/-- What is no comment is kept, in order. -/
theorem forall₂
    (drops : DropsCommentsFrom changed nodes others)
    (sameKind : ∀ node other, changed node other → node.isComment = other.isComment) :
    List.Forall₂ changed
      (nodes.filter fun node => !node.isComment)
      (others.filter fun node => !node.isComment) := by
  induction drops with
  | nil => exact .nil
  | @keep node other _ _ kept rest inductionHypothesis =>
      rw [List.filter_cons, List.filter_cons, sameKind node other kept]
      split
      · exact .cons kept inductionHypothesis
      · exact inductionHypothesis
  | drop comment rest inductionHypothesis =>
      rw [List.filter_cons_of_neg (by simp [comment])]
      exact inductionHypothesis

/-- A search that finds no comment finds related nodes. -/
theorem find?
    (drops : DropsCommentsFrom changed nodes others)
    {wanted : Node → Bool}
    (sameWanted : ∀ node other, changed node other → wanted node = wanted other)
    (unwanted : ∀ node ∈ nodes, node.isComment = true → wanted node = false) :
    Option.Rel changed (nodes.find? wanted) (others.find? wanted) := by
  induction drops with
  | nil => exact .none
  | @keep node other _ _ kept rest inductionHypothesis =>
      obtain ⟨-, later⟩ := List.forall_mem_cons.mp unwanted
      rw [List.find?_cons, List.find?_cons, sameWanted node other kept]
      cases wanted other with
      | true => exact .some kept
      | false => exact inductionHypothesis later
  | drop comment rest inductionHypothesis =>
      obtain ⟨here, later⟩ := List.forall_mem_cons.mp unwanted
      rw [List.find?_cons_of_neg (by simp [here comment])]
      exact inductionHypothesis later

/-- A condition that no comment satisfies is not affected by comments. -/
theorem any_eq
    (drops : DropsCommentsFrom changed nodes others)
    {wanted : Node → Bool}
    (sameWanted : ∀ node other, changed node other → wanted node = wanted other)
    (unwanted : ∀ node, node.isComment = true → wanted node = false) :
    nodes.any wanted = others.any wanted := by
  induction drops with
  | nil => rfl
  | keep kept rest inductionHypothesis =>
      rw [List.any_cons, List.any_cons, sameWanted _ _ kept, inductionHypothesis]
  | drop comment rest inductionHypothesis =>
      rw [List.any_cons, unwanted _ comment, Bool.false_or, inductionHypothesis]

/-- Steps that do nothing at comments do the same without some of them. -/
theorem forM_eq
    {σ ε : Type}
    (drops : DropsCommentsFrom changed nodes others)
    {step : Node → Effect σ ε Unit}
    (sameStep : ∀ node ∈ nodes, ∀ other, changed node other → step node = step other)
    (nothing : ∀ node ∈ nodes, node.isComment = true → step node = pure ()) :
    (forM nodes step : Effect σ ε Unit) = forM others step := by
  induction drops with
  | nil => rfl
  | keep kept rest inductionHypothesis =>
      obtain ⟨here, later⟩ := List.forall_mem_cons.mp sameStep
      obtain ⟨-, nothingLater⟩ := List.forall_mem_cons.mp nothing
      rw [List.forM_cons, List.forM_cons, here _ kept,
        inductionHypothesis later nothingLater]
  | drop comment rest inductionHypothesis =>
      obtain ⟨-, later⟩ := List.forall_mem_cons.mp sameStep
      obtain ⟨nothingHere, nothingLater⟩ := List.forall_mem_cons.mp nothing
      rw [List.forM_cons, nothingHere comment, pure_bind,
        inductionHypothesis later nothingLater]

end DropsCommentsFrom

namespace Uncommented

variable {first second : Node}

/-- The children of a tree without some of its comments are again such trees. -/
theorem children (uncommented : first.Uncommented second) :
    DropsCommentsFrom Uncommented first.children second.children := by
  obtain ⟨drops, aside⟩ := uncommented
  cases drops with
  | mk label number below =>
      apply below.imp
      intro child isChild other childDrops
      exact ⟨childDrops, aside.of_mem_children isChild⟩

theorem namedChildren (uncommented : first.Uncommented second) :
    DropsCommentsFrom Uncommented first.namedChildren second.namedChildren :=
  uncommented.children.filter fun _ _ changed => changed.drops.named_eq

/-- The contents of a node are the same without comments. -/
theorem contents (uncommented : first.Uncommented second) :
    List.Forall₂ Uncommented first.contents second.contents :=
  uncommented.namedChildren.forall₂ fun _ _ changed => changed.drops.isComment_eq

theorem child (uncommented : first.Uncommented second) (field : String) :
    Option.Rel Uncommented (first.child? field) (second.child? field) := by
  apply uncommented.children.find?
  · intro node other changed
    rw [changed.drops.field_eq]
  · intro node isChild comment
    have aside := (uncommented.aside.of_mem_children isChild).here
    rw [aside.field_of_isComment comment]
    rfl

/-- Where no comment comes first, the first named child stays the first one. -/
theorem head
    (uncommented : first.Uncommented second)
    (wraps : (Literal.isWrapper first.kind || first.isAttribute) = true) :
    Option.Rel Uncommented first.namedChildren.head? second.namedChildren.head? := by
  have noComment := uncommented.aside.here.head_of_wraps wraps
  have drops := uncommented.namedChildren
  generalize first.namedChildren = nodes at noComment drops ⊢
  generalize second.namedChildren = others at drops ⊢
  cases drops with
  | nil => exact .none
  | keep kept rest => exact .some kept
  | drop comment rest =>
      have isNone : (false : Bool) = true := noComment.symm.trans comment
      cases isNone

/-- Dropping comments that stand aside is a similarity. -/
theorem similarity : Similarity Uncommented where
  sameFace := fun uncommented => uncommented.drops.sameFace
  child := fun field uncommented _ => uncommented.child field
  contents := fun uncommented _ => uncommented.contents
  head := fun uncommented wraps => uncommented.head wraps
  name := fun uncommented => by
    obtain ⟨absent, absentToo⟩ | ⟨left, right, found, foundToo, names⟩ :=
      rel_cases (uncommented.child "name")
    · rw [absent, absentToo]
      exact .none
    · rw [found, foundToo]
      exact .some names.drops.sameFace.sameName
  attributes := fun uncommented => by
    rw [filter_isAttribute_eq, filter_isAttribute_eq]
    apply List.rel_filter _ uncommented.contents
    intro child other changed
    simp only [isAttribute, changed.drops.sameFace.kind]

end Uncommented

/-- The nodes of a tree that are no comments, each before its descendants. -/
def substance (root : Node) : List Node :=
  root.preorder.filter fun node => !node.isComment

/-- The nodes of two forests that differ in comments correspond one by one, comments left
aside. -/
theorem filter_preorderAll_eq
    {nodes others : List Node}
    {changed : Node → Node → Prop}
    (drops : DropsCommentsFrom changed nodes others)
    (leaves : ∀ node ∈ nodes, node.isComment = true → node.children = [])
    (below : ∀ node ∈ nodes, ∀ other, changed node other →
      List.Forall₂ Uncommented node.substance other.substance) :
    List.Forall₂ Uncommented
      ((preorderAll nodes).filter fun node => !node.isComment)
      ((preorderAll others).filter fun node => !node.isComment) := by
  induction drops with
  | nil => exact .nil
  | keep kept rest inductionHypothesis =>
      obtain ⟨-, leavesLater⟩ := List.forall_mem_cons.mp leaves
      obtain ⟨here, later⟩ := List.forall_mem_cons.mp below
      rw [preorderAll, preorderAll, List.filter_append, List.filter_append]
      exact List.rel_append (here _ kept) (inductionHypothesis leavesLater later)
  | @drop node _ _ comment rest inductionHypothesis =>
      obtain ⟨leaf, leavesLater⟩ := List.forall_mem_cons.mp leaves
      obtain ⟨-, later⟩ := List.forall_mem_cons.mp below
      have nothing : node.preorder.filter (fun node => !node.isComment) = [] := by
        cases node with
        | mk label children =>
            obtain rfl : children = [] := leaf comment
            simp [preorder, preorderAll, comment]
      rw [preorderAll, List.filter_append, nothing, List.nil_append]
      exact inductionHypothesis leavesLater later

/-- Dropping comments keeps what is no comment. -/
theorem Uncommented.substance
    (first : Node) :
    ∀ second, first.Uncommented second →
      List.Forall₂ Uncommented first.substance second.substance := by
  induction first using Node.induction with
  | step label children inductionHypothesis =>
      intro second uncommented
      have below :=
        filter_preorderAll_eq uncommented.children
          (fun node isChild =>
            (uncommented.aside.of_mem_children isChild).here.children_of_isComment)
          inductionHypothesis
      have sameComment := uncommented.drops.isComment_eq
      cases second with
      | mk otherLabel others =>
          unfold Node.substance
          rw [preorder, preorder, List.filter_cons, List.filter_cons, sameComment]
          split
          · exact .cons uncommented below
          · exact below

end Node
end ComponentOutline
