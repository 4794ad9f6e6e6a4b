import ComponentOutline.Component.Progress
import ComponentOutline.Proofs.Literal.Equations
import Mathlib.Data.List.Forall2

/-!
# Similar trees

Two trees may be written differently and still be read alike.  A relation between nodes
is a similarity if related nodes show the same of themselves and if what is looked up in
them is related again.  Classes and their bodies are left out of the second condition:
nothing is looked up in them but a name and, if a class stands where an opening tag
should, attributes.  Everything that an extraction reads of a node other than a class is
the same for related nodes; this is proved once for all similarities.
-/

namespace ComponentOutline

/-- Two results agree: they are the same failure, or values that are related. -/
inductive Agree {α β : Type} (related : α → β → Prop) :
    Except Failure α → Except Failure β → Prop
  | ok {first : α} {second : β} (values : related first second) :
      Agree related (.ok first) (.ok second)
  | error (failure : Failure) : Agree related (.error failure) (.error failure)

namespace Agree

variable {α β γ δ : Type} {related : α → β → Prop}
  {first : Except Failure α} {second : Except Failure β}

/-- What is computed from results that agree is equal if it is equal for related
values. -/
theorem bind_eq
    (agree : Agree related first second)
    {next : α → Except Failure γ}
    {other : β → Except Failure γ}
    (continued : ∀ left right, related left right → next left = other right) :
    (first >>= next) = (second >>= other) := by
  cases agree with
  | ok values => exact continued _ _ values
  | error failure => rfl

/-- Computations that agree step by step agree. -/
theorem bind
    {target : γ → δ → Prop}
    (agree : Agree related first second)
    {next : α → Except Failure γ}
    {other : β → Except Failure δ}
    (continued : ∀ left right, related left right → Agree target (next left) (other right)) :
    Agree target (first >>= next) (second >>= other) := by
  cases agree with
  | ok values => exact continued _ _ values
  | error failure => exact .error failure

theorem map
    {target : γ → δ → Prop}
    (agree : Agree related first second)
    {change : α → γ}
    {other : β → δ}
    (changed : ∀ left right, related left right → target (change left) (other right)) :
    Agree target (first.map change) (second.map other) := by
  cases agree with
  | ok values => exact .ok (changed _ _ values)
  | error failure => exact .error failure

/-- Steps that start from results that agree are equal if they go on equally from
related values. -/
theorem ofExcept_bind_eq
    (agree : Agree related first second)
    {next : α → Extracting γ}
    {other : β → Extracting γ}
    (continued : ∀ left right, related left right → next left = other right) :
    (Extracting.ofExcept first >>= next) = (Extracting.ofExcept second >>= other) := by
  cases agree with
  | ok values => exact continued _ _ values
  | error failure => rfl

end Agree

namespace Node

/-- Whether a node is a class or the body of one. -/
def isClassPart (node : Node) : Bool :=
  ["class_declaration", "class", "class_body"].contains node.kind

theorem isClassPart_eq_false
    {node : Node}
    {kind : String}
    (isKind : (node.kind == kind) = true)
    (other : ["class_declaration", "class", "class_body"].contains kind = false) :
    node.isClassPart = false := by
  rw [isClassPart, beq_iff_eq.mp isKind, other]

theorem isClassPart_of_isWrapper
    {node : Node}
    (wraps : Literal.isWrapper node.kind = true) :
    node.isClassPart = false := by
  simp only [Literal.isWrapper, Bool.or_eq_true] at wraps
  obtain (bracketed | cast) | checked := wraps
  · exact isClassPart_eq_false bracketed (by decide)
  · exact isClassPart_eq_false cast (by decide)
  · exact isClassPart_eq_false checked (by decide)

/-- Two nodes are of one kind, at one place and of one text. -/
structure SameFace (first second : Node) : Prop where
  kind : first.kind = second.kind
  missing : first.missing = second.missing
  line : first.line = second.line
  column : first.column = second.column
  bytes : first.label.bytes = second.label.bytes

namespace SameFace

variable {first second : Node}

theorem readText (same : SameFace first second) : first.readText = second.readText := by
  rw [Node.readText, Node.readText, text, text, same.bytes]

theorem reject (same : SameFace first second) (reason : String) :
    first.reject reason = second.reject reason := by
  rw [Node.reject, Node.reject, same.kind, same.line, same.column]

end SameFace

/-- Two nodes can stand for one name. -/
structure SameName (first second : Node) : Prop where
  missing : first.missing = second.missing
  readText : first.readText = second.readText

/-- Nodes of one kind, place and text can stand for one name. -/
theorem SameFace.sameName {first second : Node} (same : SameFace first second) :
    SameName first second :=
  ⟨same.missing, same.readText⟩

/-- Whether a node is an attribute of an element. -/
def isAttribute (node : Node) : Bool :=
  node.kind == "jsx_attribute"

/-- Among the named children, a kind other than that of comments is looked up in the
contents. -/
theorem find?_namedChildren_eq
    (node : Node)
    {kind : String}
    (other : (kind == "comment") = false) :
    (node.namedChildren.find? fun child => child.kind == kind) =
      node.contents.find? fun child => child.kind == kind := by
  unfold contents
  rw [List.find?_filter]
  congr 1
  funext child
  cases isKind : child.kind == kind with
  | false => simp
  | true => simp [isComment, beq_iff_eq.mp isKind, other]

/-- No comment is an attribute. -/
theorem filter_isAttribute_eq (node : Node) :
    node.namedChildren.filter isAttribute = node.contents.filter isAttribute := by
  rw [Node.contents, List.filter_filter]
  congr 1
  funext child
  cases isOne : child.isAttribute with
  | false => rfl
  | true =>
      have kind : child.kind = "jsx_attribute" := by simpa [isAttribute] using isOne
      simp [isComment, kind]

end Node

/-- Related nodes show the same of themselves, and what is looked up in them is
related. -/
structure Similarity (related : Node → Node → Prop) : Prop where
  sameFace : ∀ {first second}, related first second → first.SameFace second
  child : ∀ {first second} field,
    related first second → first.isClassPart = false →
      Option.Rel related (first.child? field) (second.child? field)
  contents : ∀ {first second},
    related first second → first.isClassPart = false →
      List.Forall₂ related first.contents second.contents
  head : ∀ {first second},
    related first second → (Literal.isWrapper first.kind || first.isAttribute) = true →
      Option.Rel related first.namedChildren.head? second.namedChildren.head?
  name : ∀ {first second},
    related first second →
      Option.Rel Node.SameName (first.child? "name") (second.child? "name")
  attributes : ∀ {first second},
    related first second →
      List.Forall₂ related
        (first.namedChildren.filter Node.isAttribute)
        (second.namedChildren.filter Node.isAttribute)

theorem rel_cases
    {α β : Type}
    {related : α → β → Prop}
    {first : Option α}
    {second : Option β}
    (options : Option.Rel related first second) :
    (first = none ∧ second = none) ∨
      ∃ left right, first = some left ∧ second = some right ∧ related left right := by
  cases options with
  | none => exact .inl ⟨rfl, rfl⟩
  | some values => exact .inr ⟨_, _, rfl, rfl, values⟩

/-- In related lists the first nodes of a kind are related. -/
theorem forall₂_find?
    {related : Node → Node → Prop}
    (sameFace : ∀ {first second}, related first second → first.SameFace second)
    (kind : String)
    {firsts seconds : List Node}
    (lists : List.Forall₂ related firsts seconds) :
    Option.Rel related
      (firsts.find? fun child => child.kind == kind)
      (seconds.find? fun child => child.kind == kind) := by
  induction lists with
  | nil => exact .none
  | @cons first second _ _ heads tails inductionHypothesis =>
      rw [List.find?_cons, List.find?_cons, (sameFace heads).kind]
      cases second.kind == kind with
      | false => exact inductionHypothesis
      | true => exact .some heads

theorem forall₂_head?
    {related : Node → Node → Prop}
    {firsts seconds : List Node}
    (lists : List.Forall₂ related firsts seconds) :
    Option.Rel related firsts.head? seconds.head? := by
  cases lists with
  | nil => exact .none
  | cons heads tails => exact .some heads

namespace Similarity

variable {related : Node → Node → Prop} {first second : Node}

/-- Similar nodes have similar first children of a kind. -/
theorem find?_namedChildren
    (similar : Similarity related)
    (nodes : related first second)
    (plain : first.isClassPart = false)
    (kind : String)
    (other : (kind == "comment") = false) :
    Option.Rel related
      (first.namedChildren.find? fun child => child.kind == kind)
      (second.namedChildren.find? fun child => child.kind == kind) := by
  rw [Node.find?_namedChildren_eq _ other, Node.find?_namedChildren_eq _ other]
  exact forall₂_find? similar.sameFace kind (similar.contents nodes plain)

/-- What is required of similar nodes is similar, or missing in both. -/
theorem requireField
    (similar : Similarity related)
    (nodes : related first second)
    (plain : first.isClassPart = false)
    (field : String) :
    Agree related (first.requireField field) (second.requireField field) := by
  have same := similar.sameFace nodes
  unfold Node.requireField
  rw [same.kind, same.line]
  obtain ⟨absent, absentToo⟩ | ⟨left, right, found, foundToo, children⟩ :=
    rel_cases (similar.child field nodes plain)
  · rw [absent, absentToo]
    exact .error _
  · rw [found, foundToo]
    simp only
    rw [(similar.sameFace children).missing]
    split
    · exact .error _
    · exact .ok children

end Similarity
end ComponentOutline
