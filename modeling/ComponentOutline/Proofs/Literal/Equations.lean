import ComponentOutline.Literal.State
import ComponentOutline.Proofs.Syntax.Everywhere

/-!
# The evaluator by contents and fields

The recursion of the evaluator goes over all children of a node and passes over what it
does not need.  Here it is read as equations that name what it does need: the contents
of an object, an array or a wrapper, the child under a field, and the text of a token.
-/

namespace ComponentOutline

namespace Node

/-- The contents of a node are its named children that are no comments. -/
theorem contents_eq (node : Node) :
    node.contents = node.children.filter fun child => child.named && !child.isComment := by
  unfold contents namedChildren
  rw [List.filter_filter]
  congr 1
  funext child
  exact Bool.and_comm _ _

theorem mem_children_of_mem_contents
    {node child : Node}
    (isContent : child ∈ node.contents) :
    child ∈ node.children :=
  (List.mem_filter.mp (List.mem_filter.mp isContent).1).1

theorem contents_cons (label : Label) (child : Node) (rest : List Node) :
    (mk label (child :: rest)).contents =
      if !child.named || child.isComment then (mk label rest).contents
      else child :: (mk label rest).contents := by
  rw [contents_eq, contents_eq, children_mk, children_mk, List.filter_cons]
  cases child.named with
  | false => simp
  | true => cases child.isComment <;> simp

theorem child?_cons (field : String) (label : Label) (child : Node) (rest : List Node) :
    (mk label (child :: rest)).child? field =
      if child.label.field == some field then some child
      else (mk label rest).child? field := by
  unfold child?
  rw [children_mk, children_mk, List.find?_cons]
  cases child.label.field == some field with
  | false => rfl
  | true => rfl

end Node

namespace Literal

/-- The entries after one more member of an object. -/
def addMember (entries : List (Text × Value)) (member : Node) :
    Except Failure (List (Text × Value)) :=
  if member.kind != "pair" then .error (member.reject "only key/value pairs are literal")
  else
    match member.child? "key", member.child? "value" with
    | some key, some child => do
        let value ← evaluate child
        let name ← propertyKey key
        return Entries.insert name value entries
    | _, _ => .error (member.reject "incomplete property")

/-- The value of a node that should be there. -/
def evaluateOr (otherwise : Failure) : Option Node → Except Failure Value
  | some child => evaluate child
  | none => .error otherwise

/-- A missing field makes a property incomplete. -/
theorem evaluateField_eq (node : Node) (field : String) (label : Label) (children : List Node) :
    evaluateField node field children =
      evaluateOr (node.reject "incomplete property")
        ((Node.mk label children).child? field) := by
  induction children with
  | nil => simp [evaluateField, Node.child?, evaluateOr]
  | cons child rest inductionHypothesis =>
      rw [evaluateField, Node.child?_cons, inductionHypothesis]
      cases child.label.field == some field with
      | false => rfl
      | true => rfl

/-- The items of an array are evaluated one after the other. -/
theorem evaluateItems_eq (label : Label) (children : List Node) :
    evaluateItems children = (Node.mk label children).contents.mapM evaluate := by
  induction children with
  | nil => simp [evaluateItems, Node.contents_eq]; rfl
  | cons child rest inductionHypothesis =>
      rw [evaluateItems, Node.contents_cons, inductionHypothesis]
      split
      · rfl
      · rw [List.mapM_cons]

/-- A wrapper has the value of its first content. -/
theorem evaluateInner_eq (node : Node) (label : Label) (children : List Node) :
    evaluateInner node children =
      evaluateOr (node.reject "empty expression")
        (Node.mk label children).contents.head? := by
  induction children with
  | nil => simp [evaluateInner, Node.contents_eq, evaluateOr]
  | cons child rest inductionHypothesis =>
      rw [evaluateInner, Node.contents_cons, inductionHypothesis]
      split
      · rfl
      · rfl

/-- The members of an object are added one after the other. -/
theorem evaluateMembers_eq
    (label : Label)
    (children : List Node)
    (entries : List (Text × Value)) :
    evaluateMembers children entries =
      (Node.mk label children).contents.foldlM addMember entries := by
  induction children generalizing entries with
  | nil => simp [evaluateMembers, Node.contents_eq]; rfl
  | cons child rest inductionHypothesis =>
      cases child with
      | mk childLabel childChildren =>
          rw [evaluateMembers, Node.contents_cons]
          change (if !childLabel.named || childLabel.kind == "comment" then _ else _) =
            List.foldlM _ _ (if !childLabel.named || childLabel.kind == "comment" then _ else _)
          split
          · exact inductionHypothesis entries
          · rw [List.foldlM_cons, addMember]
            change (if childLabel.kind != "pair" then _ else _) =
              (if childLabel.kind != "pair" then _ else _) >>= _
            split
            · rfl
            · rw [evaluateField_eq _ _ childLabel]
              cases (Node.mk childLabel childChildren).child? "key" with
              | none => rfl
              | some key =>
                  cases (Node.mk childLabel childChildren).child? "value" with
                  | none => rfl
                  | some value =>
                      simp only [evaluateOr, inductionHypothesis, bind_assoc, pure_bind]

/-- The value of a node by its contents and its fields. -/
theorem evaluate_eq (node : Node) :
    evaluate node =
      if node.kind == "object" then (node.contents.foldlM addMember []).map .record
      else if node.kind == "array" then (node.contents.mapM evaluate).map .list
      else if node.kind == "unary_expression" then do
        let sign ← readSign node
        let value ←
          evaluateOr (node.reject "incomplete property") (node.child? "argument")
        applySign node sign value
      else if isWrapper node.kind then
        evaluateOr (node.reject "empty expression") node.contents.head?
      else evaluateAtom node := by
  cases node with
  | mk label children =>
      rw [evaluate, evaluateMembers_eq label, evaluateItems_eq label, evaluateInner_eq _ label,
        evaluateField_eq _ _ label]
      rfl

theorem kind_of_isWrapper
    {kind : String}
    (wraps : isWrapper kind = true) :
    kind = "parenthesized_expression" ∨ kind = "as_expression" ∨
      kind = "satisfies_expression" := by
  simpa [isWrapper, or_assoc] using wraps

/-- An object is the record of its members. -/
theorem evaluate_of_object {node : Node} (kind : node.kind = "object") :
    evaluate node = (node.contents.foldlM addMember []).map .record := by
  rw [evaluate_eq, kind]
  rfl

/-- An array is the list of its items. -/
theorem evaluate_of_array {node : Node} (kind : node.kind = "array") :
    evaluate node = (node.contents.mapM evaluate).map .list := by
  rw [evaluate_eq, kind]
  rfl

/-- A wrapper stands for its first content. -/
theorem evaluate_of_wrapper {node : Node} (wraps : isWrapper node.kind = true) :
    evaluate node = evaluateOr (node.reject "empty expression") node.contents.head? := by
  rw [evaluate_eq]
  obtain kind | kind | kind := kind_of_isWrapper wraps
  all_goals
    rw [kind]
    rfl

/-- A state is read off the object that is left when all wrappers are taken away. -/
theorem stateEntries_eq (node : Node) :
    stateEntries node =
      if (unwrap node).kind == "object" then (unwrap node).contents.foldlM addMember []
      else .error ((unwrap node).reject "state initializer must be an object literal") := by
  unfold stateEntries
  cases unwrap node with
  | mk label children =>
      change (if label.kind == "object" then evaluateMembers children [] else _) = _
      rw [evaluateMembers_eq label]
      rfl

theorem unwrapFirst_eq (nodes : List Node) :
    unwrapFirst nodes = (nodes.filter Node.named).head?.map unwrap := by
  induction nodes with
  | nil => rfl
  | cons child rest inductionHypothesis =>
      rw [unwrapFirst, List.filter_cons]
      split
      · rfl
      · exact inductionHypothesis

/-- Unwrapping goes on into the first named child until no wrapper is left. -/
theorem unwrap_eq (node : Node) :
    unwrap node =
      if isWrapper node.kind then (node.namedChildren.head?.map unwrap).getD node
      else node := by
  cases node with
  | mk label children =>
      rw [unwrap, unwrapFirst_eq]
      rfl

/-- A comment adds nothing to a string. -/
theorem decodeParts_eq_contents (node : Node) :
    decodeParts node.namedChildren = decodeParts node.contents := by
  unfold Node.contents
  induction node.namedChildren with
  | nil => rfl
  | cons part rest inductionHypothesis =>
      rw [List.filter_cons, decodeParts, inductionHypothesis]
      cases comment : part.isComment with
      | false => simp [decodeParts]
      | true =>
          have kind : part.kind = "comment" := by simpa [Node.isComment] using comment
          have nothing : decodePart part = .ok [] := by simp [decodePart, kind]
          rw [nothing]
          simp only [Bool.not_true, Bool.false_eq_true, if_false]
          cases decodeParts (rest.filter fun child => !child.isComment) with
          | error failure => rfl
          | ok text => rfl

/-! ## Tokens -/

section

variable {node : Node} {text : String}

/-- An escape is decoded by its text; what cannot be converted is the only failure left. -/
theorem decodePart_of_escape
    (kind : node.kind = "escape_sequence")
    (read : node.readText = .ok text) :
    decodePart node = (decodeEscape text).mapError .conversion := by
  rw [decodePart, kind, read]
  rfl

theorem decodePart_of_fragment
    (kind : node.kind = "string_fragment")
    (read : node.readText = .ok text) :
    decodePart node = .ok (Text.ofString text) := by
  rw [decodePart, kind, read]
  rfl

theorem evaluate_of_number
    (kind : node.kind = "number")
    (read : node.readText = .ok text) :
    evaluate node = ((readNumber text).map .number).mapError .conversion := by
  have atom : evaluate node =
      ((readNumber text).mapError Failure.conversion >>= fun number =>
        pure (.number number)) := by
    rw [evaluate_eq, evaluateAtom, kind, read]
    rfl
  rw [atom]
  cases readNumber text with
  | ok number => rfl
  | error cause => rfl

theorem propertyKey_of_number
    (kind : node.kind = "number")
    (read : node.readText = .ok text) :
    propertyKey node = (readNumber text >>= numberKey).mapError .conversion := by
  rw [propertyKey, kind, read]
  change ((readNumber text).mapError Failure.conversion >>= fun number =>
    (numberKey number).mapError .conversion) = _
  cases readNumber text with
  | ok number => rfl
  | error cause => rfl

end

end Literal
end ComponentOutline
