import ComponentOutline.Proofs.Syntax.Similar

/-!
# The values of similar trees

Related expressions have the same value, or fail to have one in the same way, and
related initializers give the same state.
-/

namespace ComponentOutline
namespace Similarity

open Literal

variable {related : Node → Node → Prop} {first second : Node}

/-- Similar parts of a string are decoded alike. -/
theorem decodePart_eq
    (similar : Similarity related)
    (nodes : related first second) :
    decodePart first = decodePart second := by
  have same := similar.sameFace nodes
  unfold decodePart
  rw [same.kind, same.readText, same.reject]

theorem decodeParts_eq
    (similar : Similarity related)
    {firsts seconds : List Node}
    (parts : List.Forall₂ related firsts seconds) :
    decodeParts firsts = decodeParts seconds := by
  induction parts with
  | nil => rfl
  | cons heads tails inductionHypothesis =>
      rw [decodeParts, decodeParts, similar.decodePart_eq heads, inductionHypothesis]

theorem decodeString_eq
    (similar : Similarity related)
    (nodes : related first second)
    (plain : first.isClassPart = false) :
    decodeString first = decodeString second := by
  unfold decodeString
  rw [decodeParts_eq_contents, decodeParts_eq_contents,
    similar.decodeParts_eq (similar.contents nodes plain)]

theorem propertyKey_eq
    (similar : Similarity related)
    (nodes : related first second) :
    propertyKey first = propertyKey second := by
  have same := similar.sameFace nodes
  unfold propertyKey
  rw [same.kind, same.readText, same.reject]
  split
  · rfl
  · split
    · next isString =>
        rw [← same.kind] at isString
        exact similar.decodeString_eq nodes (Node.isClassPart_eq_false isString (by decide))
    · rfl

theorem readSign_eq
    (similar : Similarity related)
    (nodes : related first second)
    (plain : first.isClassPart = false) :
    readSign first = readSign second := by
  have same := similar.sameFace nodes
  unfold readSign
  rw [same.reject]
  obtain ⟨absent, absentToo⟩ | ⟨operator, operatorToo, found, foundToo, operators⟩ :=
    rel_cases (similar.child "operator" nodes plain)
  · rw [absent, absentToo]
  · obtain ⟨absent, absentToo⟩ | ⟨argument, argumentToo, held, heldToo, -⟩ :=
      rel_cases (similar.child "argument" nodes plain)
    · rw [found, foundToo, absent, absentToo]
    · rw [found, foundToo, held, heldToo]
      simp only [(similar.sameFace operators).readText]

theorem evaluateAtom_eq
    (similar : Similarity related)
    (nodes : related first second) :
    evaluateAtom first = evaluateAtom second := by
  have same := similar.sameFace nodes
  unfold evaluateAtom
  rw [same.kind, same.readText]
  simp only [same.reject]
  split
  · next isString =>
      rw [similar.decodeString_eq nodes
        (Node.isClassPart_eq_false (beq_iff_eq.mpr (same.kind.trans isString)) (by decide))]
  all_goals rfl

/-- A sign fails at the same position in similar nodes. -/
theorem applySign_eq
    (similar : Similarity related)
    (nodes : related first second)
    (sign : Number → Number)
    (value : Value) :
    applySign first sign value = applySign second sign value := by
  unfold applySign
  rw [(similar.sameFace nodes).reject]

/-- Two nodes have the same value as expressions and add the same entries as members. -/
def SameValue (first second : Node) : Prop :=
  evaluate first = evaluate second ∧
    ∀ entries, addMember entries first = addMember entries second

theorem evaluateOr_eq
    {left right : Option Node}
    (options : Option.Rel SameValue left right)
    (otherwise : Failure) :
    evaluateOr otherwise left = evaluateOr otherwise right := by
  cases options with
  | none => rfl
  | some values => exact values.1

theorem mapM_evaluate_eq
    {firsts seconds : List Node}
    (items : List.Forall₂ SameValue firsts seconds) :
    firsts.mapM evaluate = seconds.mapM evaluate := by
  induction items with
  | nil => rfl
  | cons heads tails inductionHypothesis =>
      rw [List.mapM_cons, List.mapM_cons, heads.1, inductionHypothesis]

theorem foldlM_addMember_eq
    {firsts seconds : List Node}
    (members : List.Forall₂ SameValue firsts seconds)
    (entries : List (Text × Value)) :
    firsts.foldlM addMember entries = seconds.foldlM addMember entries := by
  induction members generalizing entries with
  | nil => rfl
  | cons heads tails inductionHypothesis =>
      rw [List.foldlM_cons, List.foldlM_cons, heads.2]
      congr 1
      funext later
      exact inductionHypothesis later

/-- If the parts of similar expressions have the same values, then so do the expressions. -/
theorem evaluate_eq_of_below
    (similar : Similarity related)
    (nodes : related first second)
    (contents : first.isClassPart = false →
      List.Forall₂ SameValue first.contents second.contents)
    (argument : first.isClassPart = false →
      Option.Rel SameValue (first.child? "argument") (second.child? "argument")) :
    evaluate first = evaluate second := by
  have same := similar.sameFace nodes
  rw [evaluate_eq, evaluate_eq, ← same.kind]
  simp only [same.reject, similar.evaluateAtom_eq nodes, similar.applySign_eq nodes]
  split
  · next isObject =>
      rw [foldlM_addMember_eq (contents (Node.isClassPart_eq_false isObject (by decide)))]
  · split
    · next isArray =>
        rw [mapM_evaluate_eq (contents (Node.isClassPart_eq_false isArray (by decide)))]
    · split
      · next isSigned =>
          have plain := Node.isClassPart_eq_false isSigned (by decide)
          rw [similar.readSign_eq nodes plain, evaluateOr_eq (argument plain)]
      · split
        · next wraps =>
            exact evaluateOr_eq (forall₂_head? (contents (Node.isClassPart_of_isWrapper wraps))) _
        · rfl

/-- If the values of similar members are the same, then the same entry is added. -/
theorem addMember_eq_of_below
    (similar : Similarity related)
    (nodes : related first second)
    (value : first.isClassPart = false →
      Option.Rel SameValue (first.child? "value") (second.child? "value"))
    (entries : List (Text × Value)) :
    addMember entries first = addMember entries second := by
  have same := similar.sameFace nodes
  unfold addMember
  rw [← same.kind, same.reject, same.reject]
  split
  · rfl
  · next isPair =>
      have isPairToo : (first.kind == "pair") = true := by simpa using isPair
      have plain := Node.isClassPart_eq_false isPairToo (by decide)
      obtain ⟨absent, absentToo⟩ | ⟨key, keyToo, found, foundToo, keys⟩ :=
        rel_cases (similar.child "key" nodes plain)
      · rw [absent, absentToo]
      · obtain ⟨absent, absentToo⟩ | ⟨child, childToo, held, heldToo, values⟩ :=
          rel_cases (value plain)
        · rw [found, foundToo, absent, absentToo]
        · rw [found, foundToo, held, heldToo]
          simp only
          rw [values.1, similar.propertyKey_eq keys]

/-- Related nodes have the same value.  Expressions and members go together in the
induction, because a member holds its value one level further down than an item. -/
theorem sameValue
    (similar : Similarity related)
    (first : Node) :
    ∀ second, related first second → SameValue first second := by
  induction first using Node.induction with
  | step label children inductionHypothesis =>
      intro second nodes
      have contents : (Node.mk label children).isClassPart = false →
          List.Forall₂ SameValue (Node.mk label children).contents second.contents := by
        intro plain
        have below : ∀ child ∈ (Node.mk label children).contents,
            ∀ other, related child other → SameValue child other := by
          intro child isContent
          exact inductionHypothesis child (Node.mem_children_of_mem_contents isContent)
        exact ((List.forall₂_and_left _ _).mpr ⟨below, similar.contents nodes plain⟩).imp
          fun child other ⟨equal, relatedToo⟩ => equal other relatedToo
      have field : ∀ name, (Node.mk label children).isClassPart = false →
          Option.Rel SameValue ((Node.mk label children).child? name) (second.child? name) := by
        intro name plain
        obtain ⟨absent, absentToo⟩ | ⟨child, other, found, foundToo, relatedToo⟩ :=
          rel_cases (similar.child name nodes plain)
        · rw [absent, absentToo]
          exact .none
        · rw [found, foundToo]
          exact .some (inductionHypothesis child (List.mem_of_find?_eq_some found) other
            relatedToo)
      exact ⟨similar.evaluate_eq_of_below nodes contents (field "argument"),
        similar.addMember_eq_of_below nodes (field "value")⟩

/-- Similar expressions have the same value, by induction over the first tree. -/
theorem evaluate_eq_of_related
    (similar : Similarity related)
    (nodes : related first second) :
    evaluate first = evaluate second :=
  (similar.sameValue first second nodes).1

/-- What related nodes stand for without their wrappers is related. -/
theorem unwrap
    (similar : Similarity related)
    (first : Node) :
    ∀ second, related first second → related (unwrap first) (Literal.unwrap second) := by
  induction first using Node.induction with
  | step label children inductionHypothesis =>
      intro second nodes
      have same := similar.sameFace nodes
      rw [unwrap_eq, unwrap_eq, ← same.kind]
      split
      · next wraps =>
          obtain ⟨absent, absentToo⟩ | ⟨child, other, found, foundToo, heads⟩ :=
            rel_cases (similar.head nodes (by rw [wraps, Bool.true_or]))
          · rw [absent, absentToo]
            exact nodes
          · rw [found, foundToo]
            have isChild : child ∈ children :=
              (List.mem_filter.mp (List.mem_of_mem_head? found)).1
            exact inductionHypothesis child isChild other heads
      · exact nodes

theorem stateEntries_eq
    (similar : Similarity related)
    (nodes : related first second) :
    stateEntries first = stateEntries second := by
  have unwrapped := similar.unwrap first second nodes
  have same := similar.sameFace unwrapped
  rw [Literal.stateEntries_eq, Literal.stateEntries_eq, ← same.kind, same.reject]
  split
  · next isObject =>
      apply foldlM_addMember_eq
      apply (similar.contents unwrapped (Node.isClassPart_eq_false isObject (by decide))).imp
      intro member other members
      exact similar.sameValue member other members
  · rfl

end Similarity
end ComponentOutline
