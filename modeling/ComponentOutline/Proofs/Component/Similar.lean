import ComponentOutline.Component.Extract
import ComponentOutline.Proofs.Literal.Similar
import ComponentOutline.Proofs.Markup.Similar
import ComponentOutline.Proofs.Walk.Recursion

/-!
# The steps of an extraction at similar nodes

At related nodes the handlers of both patterns are the same steps: with the same result,
the same progress and the same log from every state.  What a class does depends on its
superclass and on its name, which the similarity does not tell; they are assumed to be
alike here.  A walk is then the same walk if it starts at nodes with the same handler and
goes on alike below them.
-/

namespace ComponentOutline

/-- Walks from two nodes are the same if the nodes are handled alike and the walks of
their named children are the same. -/
theorem Walk.visit_eq
    {σ ε : Type}
    {handlers : Handlers σ ε}
    {first second : Node}
    (sameHandler : handlers first.kind = handlers second.kind)
    (handledAlike : ∀ handler,
      handlers first.kind = some handler → handler first = handler second)
    (below :
      forM first.namedChildren (visit handlers) = forM second.namedChildren (visit handlers)) :
    visit handlers first = visit handlers second := by
  cases handled : handlers first.kind with
  | none =>
      rw [visit_of_unhandled handled, visit_of_unhandled (sameHandler ▸ handled), below]
  | some handler =>
      rw [visit_of_handled handled, visit_of_handled (sameHandler ▸ handled),
        handledAlike handler handled]
      congr 1
      funext outcome
      have asked :
          (forM (outcome.asked first) (visit handlers) : Effect σ ε Unit) =
            forM (outcome.asked second) (visit handlers) := by
        unfold Outcome.asked
        split
        · exact below
        · rfl
      rw [asked]

/-- Extractions are the same if their walks are. -/
theorem Extracting.extract_eq
    {handlers : Walk.Handlers Progress Failure}
    {first second : Node}
    (walked : Walk.visit handlers first = Walk.visit handlers second)
    (pattern : Pattern) :
    extract pattern handlers first = extract pattern handlers second := by
  unfold extract
  rw [Walk.run_eq_visit, Walk.run_eq_visit, walked]

namespace Similarity

variable {related : Node → Node → Prop} {first second : Node}

theorem recordState_eq
    (similar : Similarity related)
    (nodes : related first second) :
    Extracting.recordState first = Extracting.recordState second := by
  unfold Extracting.recordState
  rw [similar.stateEntries_eq nodes]

theorem withBinding_eq
    (similar : Similarity related)
    (nodes : related first second) :
    Extracting.withBinding first = Extracting.withBinding second := by
  have same := similar.sameFace nodes
  unfold Extracting.withBinding
  rw [same.kind, same.readText]

/-- Similar declarators bind the same name. -/
theorem enterDeclarator_eq
    (similar : Similarity related)
    (nodes : related first second)
    (plain : first.isClassPart = false) :
    Extracting.enterDeclarator first = Extracting.enterDeclarator second := by
  unfold Extracting.enterDeclarator
  apply (similar.requireField nodes plain "name").ofExcept_bind_eq
  intro target other targets
  exact similar.withBinding_eq targets

theorem enterAssignment_eq
    (similar : Similarity related)
    (nodes : related first second)
    (plain : first.isClassPart = false) :
    Extracting.enterAssignment first = Extracting.enterAssignment second := by
  unfold Extracting.enterAssignment
  apply (similar.requireField nodes plain "left").ofExcept_bind_eq
  intro target other targets
  exact similar.withBinding_eq targets

theorem enterElement_eq
    (similar : Similarity related)
    (nodes : related first second)
    (plain : first.isClassPart = false) :
    Extracting.enterElement first = Extracting.enterElement second := by
  unfold Extracting.enterElement Extracting.recordMarkup
  rw [similar.props_eq nodes plain, similar.childComponents_eq first second nodes plain,
    similar.tagName_eq nodes plain]

/-! ## The factory pattern -/

section Factory

open Factory

theorem isFactoryCall_eq
    (similar : Similarity related)
    (nodes : related first second)
    (plain : first.isClassPart = false)
    (options : FactoryOptions) :
    isFactoryCall options first = isFactoryCall options second := by
  unfold isFactoryCall
  apply (similar.requireField nodes plain "function").bind_eq
  intro callee other callees
  have same := similar.sameFace callees
  rw [← same.kind, same.readText]
  split
  · next isMember =>
      obtain ⟨absent, absentToo⟩ | ⟨left, right, found, foundToo, properties⟩ :=
        rel_cases (similar.child "property" callees
          (Node.isClassPart_eq_false isMember (by decide)))
      · rw [absent, absentToo]
      · rw [found, foundToo]
        simp only [(similar.sameFace properties).readText]
  · rfl

/-- Similar calls have similar first arguments, or both have none. -/
theorem firstArgument?
    (similar : Similarity related)
    (nodes : related first second)
    (plain : first.isClassPart = false) :
    Option.Rel related (firstArgument? first) (Factory.firstArgument? second) := by
  unfold Factory.firstArgument?
  obtain ⟨absent, absentToo⟩ | ⟨left, right, found, foundToo, arguments⟩ :=
    rel_cases (similar.child "arguments" nodes plain)
  · rw [absent, absentToo]
    exact .none
  · rw [found, foundToo]
    simp only
    rw [← (similar.sameFace arguments).kind]
    split
    · next isArguments =>
        have plainToo := Node.isClassPart_eq_false isArguments (by decide)
        exact forall₂_head? (similar.contents arguments plainToo)
    · exact .none

theorem keyName_eq
    (similar : Similarity related)
    {left right : Option Node}
    (keys : Option.Rel related left right) :
    keyName left = keyName right := by
  cases keys with
  | none => rfl
  | @some key other pair =>
      have same := similar.sameFace pair
      unfold keyName
      simp only
      rw [← same.kind, same.readText]
      split
      · next isString =>
          rw [similar.decodeString_eq pair (Node.isClassPart_eq_false isString (by decide))]
      · rfl

/-- The suppliers among related members are related. -/
theorem supplier?
    (similar : Similarity related)
    (options : FactoryOptions)
    {firsts seconds : List Node}
    (members : List.Forall₂ related firsts seconds) :
    Agree (Option.Rel related) (supplier? options firsts) (Factory.supplier? options seconds) := by
  induction members with
  | nil => exact .ok .none
  | @cons first second _ _ heads tails inductionHypothesis =>
      rw [Factory.supplier?, Factory.supplier?, ← (similar.sameFace heads).kind]
      split
      · next isPair =>
          have plain := Node.isClassPart_eq_false isPair (by decide)
          rw [similar.keyName_eq (similar.child "key" heads plain)]
          cases keyName (second.child? "key") with
          | error failure => exact .error failure
          | ok name =>
              change Agree _ (if isKeyed name options.supplier then _ else _)
                (if isKeyed name options.supplier then _ else _)
              split
              · exact (similar.requireField heads plain "value").map fun _ _ => .some
              · exact inductionHypothesis
      · split
        · next isMethod =>
            have plain := Node.isClassPart_eq_false isMethod (by decide)
            rw [similar.keyName_eq (similar.child "name" heads plain)]
            cases keyName (second.child? "name") with
            | error failure => exact .error failure
            | ok name =>
                change Agree _ (if isKeyed name options.supplier then _ else _)
                  (if isKeyed name options.supplier then _ else _)
                split
                · exact .ok (.some heads)
                · exact inductionHypothesis
        · exact inductionHypothesis

/-- Comments are no suppliers. -/
theorem supplier?_eq_contents (options : FactoryOptions) (object : Node) :
    Factory.supplier? options object.namedChildren =
      Factory.supplier? options object.contents := by
  unfold Node.contents
  induction object.namedChildren with
  | nil => rfl
  | cons member rest inductionHypothesis =>
      rw [List.filter_cons, Factory.supplier?, inductionHypothesis]
      cases comment : member.isComment with
      | false => simp [Factory.supplier?]
      | true =>
          have kind : member.kind = "comment" := by simpa [Node.isComment] using comment
          simp [kind]

/-- A function is no part of a class, so that nothing is dropped from it. -/
theorem isClassPart_of_isFunction
    {node : Node}
    (function : isFunction node = true) :
    node.isClassPart = false := by
  simp only [isFunction, List.contains_cons, Bool.or_eq_true] at function
  obtain isKind | isKind | isKind | isKind | isKind := function
  · exact Node.isClassPart_eq_false isKind (by decide)
  · exact Node.isClassPart_eq_false isKind (by decide)
  · exact Node.isClassPart_eq_false isKind (by decide)
  · exact Node.isClassPart_eq_false isKind (by decide)
  · cases isKind

/-- Similar functions return similar expressions. -/
theorem returnedExpression
    (similar : Similarity related)
    (nodes : related first second) :
    Agree related (returnedExpression first) (Factory.returnedExpression second) := by
  have same := similar.sameFace nodes
  have sameFunction : isFunction first = isFunction second := by
    rw [isFunction, isFunction, same.kind]
  unfold Factory.returnedExpression
  rw [same.reject, ← sameFunction, same.kind, same.line]
  cases function : isFunction first with
  | false => exact .error _
  | true =>
      simp only [Bool.not_true, Bool.false_eq_true, if_false]
      apply (similar.requireField nodes (isClassPart_of_isFunction function) "body").bind
      intro body other bodies
      rw [← (similar.sameFace bodies).kind]
      split
      · exact .ok bodies
      · next isBlock =>
          have isBlockToo : (body.kind == "statement_block") = true := by simpa using isBlock
          obtain ⟨absent, absentToo⟩ | ⟨left, right, found, foundToo, statements⟩ :=
            rel_cases (similar.find?_namedChildren bodies
              (Node.isClassPart_eq_false isBlockToo (by decide)) "return_statement" (by decide))
          · rw [absent, absentToo]
            exact .error _
          · have isReturn := List.find?_some found
            rw [found, foundToo]
            simp only
            rw [(similar.sameFace statements).line]
            obtain ⟨absent, absentToo⟩ | ⟨value, valueToo, held, heldToo, values⟩ :=
              rel_cases (forall₂_head?
                (similar.contents statements (Node.isClassPart_eq_false isReturn (by decide))))
            · rw [absent, absentToo]
              exact .error _
            · rw [held, heldToo]
              exact .ok values

theorem readSupplier_eq
    (similar : Similarity related)
    (nodes : related first second)
    (plain : first.isClassPart = false)
    (options : FactoryOptions) :
    readSupplier options first = readSupplier options second := by
  unfold readSupplier
  rw [supplier?_eq_contents, supplier?_eq_contents]
  apply (similar.supplier? options (similar.contents nodes plain)).ofExcept_bind_eq
  intro left right suppliers
  cases suppliers with
  | none => rfl
  | some functions =>
      simp only
      congr 1
      funext progress
      split
      · apply (similar.returnedExpression functions).ofExcept_bind_eq
        intro initializer other initializers
        exact similar.recordState_eq initializers
      · rfl

/-- Similar calls have the same effect. -/
theorem enterCall_eq
    (similar : Similarity related)
    (nodes : related first second)
    (plain : first.isClassPart = false)
    (options : FactoryOptions) :
    enterCall options first = enterCall options second := by
  have sameRecord : enterCall.unconfigured first = enterCall.unconfigured second := by
    rw [enterCall.unconfigured, enterCall.unconfigured, (similar.sameFace nodes).line]
  unfold enterCall
  rw [similar.isFactoryCall_eq nodes plain, sameRecord]
  obtain ⟨absent, absentToo⟩ | ⟨left, right, found, foundToo, arguments⟩ :=
    rel_cases (similar.firstArgument? nodes plain)
  · rw [absent, absentToo]
  · rw [found, foundToo]
    simp only
    rw [← (similar.sameFace arguments).kind]
    cases isObject : left.kind == "object" with
    | false => rfl
    | true =>
        have plainToo := Node.isClassPart_eq_false isObject (by decide)
        rw [similar.readSupplier_eq arguments plainToo options]

/-- At related nodes the factory pattern takes the same step. -/
theorem factoryHandler_eq
    (similar : Similarity related)
    (nodes : related first second)
    {options : FactoryOptions}
    {handler : Walk.Handler Progress Failure}
    (handled : Factory.handlers options first.kind = some handler) :
    handler first = handler second := by
  unfold Factory.handlers at handled
  split at handled
  · next isKind =>
      obtain rfl := Option.some.inj handled
      exact similar.enterDeclarator_eq nodes
        (Node.isClassPart_eq_false (beq_iff_eq.mpr isKind) (by decide))
  · next isKind =>
      obtain rfl := Option.some.inj handled
      exact similar.enterAssignment_eq nodes
        (Node.isClassPart_eq_false (beq_iff_eq.mpr isKind) (by decide))
  · next isKind =>
      obtain rfl := Option.some.inj handled
      exact similar.enterCall_eq nodes
        (Node.isClassPart_eq_false (beq_iff_eq.mpr isKind) (by decide)) options
  · next isKind =>
      obtain rfl := Option.some.inj handled
      exact similar.enterElement_eq nodes
        (Node.isClassPart_eq_false (beq_iff_eq.mpr isKind) (by decide))
  · next isKind =>
      obtain rfl := Option.some.inj handled
      exact similar.enterElement_eq nodes
        (Node.isClassPart_eq_false (beq_iff_eq.mpr isKind) (by decide))
  · cases handled

end Factory

/-! ## The class pattern -/

section Class

open ComponentOutline.Class

theorem isThisState_eq
    (similar : Similarity related)
    (nodes : related first second) :
    isThisState first = isThisState second := by
  unfold isThisState
  rw [← (similar.sameFace nodes).kind]
  split
  · next isMember =>
      have plain := Node.isClassPart_eq_false isMember (by decide)
      obtain ⟨absent, absentToo⟩ | ⟨object, objectToo, found, foundToo, objects⟩ :=
        rel_cases (similar.child "object" nodes plain)
      · rw [absent, absentToo]
      · obtain ⟨absent, absentToo⟩ | ⟨property, propertyToo, held, heldToo, properties⟩ :=
          rel_cases (similar.child "property" nodes plain)
        · rw [found, foundToo, absent, absentToo]
        · rw [found, foundToo, held, heldToo]
          simp only
          rw [(similar.sameFace objects).kind, (similar.sameFace properties).readText]
  · rfl

theorem enterStateAssignment_eq
    (similar : Similarity related)
    (nodes : related first second)
    (plain : first.isClassPart = false) :
    Class.enterAssignment first = Class.enterAssignment second := by
  unfold Class.enterAssignment
  rw [similar.enterAssignment_eq nodes plain]
  apply (similar.requireField nodes plain "left").ofExcept_bind_eq
  intro target other targets
  rw [similar.isThisState_eq targets]
  congr 1
  funext progress
  simp only
  split
  · congr 1
    funext isState
    split
    · apply (similar.requireField nodes plain "right").ofExcept_bind_eq
      intro initializer otherToo initializers
      rw [similar.recordState_eq initializers]
    · rfl
  · rfl

/-- Fields with related values and the same name are entered alike. -/
theorem enterField_eq
    (similar : Similarity related)
    (values : Option.Rel related (first.child? "value") (second.child? "value"))
    (names : Option.Rel Node.SameName (fieldName? first) (fieldName? second)) :
    enterField first = enterField second := by
  unfold enterField
  obtain ⟨absent, absentToo⟩ | ⟨value, valueToo, found, foundToo, pair⟩ := rel_cases values
  · rw [absent, absentToo]
  · obtain ⟨absent, absentToo⟩ | ⟨name, nameToo, held, heldToo, sameName⟩ := rel_cases names
    · rw [found, foundToo, absent, absentToo]
    · rw [found, foundToo, held, heldToo]
      simp only [sameName.readText, similar.recordState_eq pair]

/-- Classes with similar superclasses are judged alike. -/
theorem isComponent_eq
    (similar : Similarity related)
    (bases : Agree (Option.Rel related) (superclass first) (superclass second))
    (options : ClassOptions) :
    isComponent options first = isComponent options second := by
  unfold isComponent
  apply bases.bind_eq
  intro left right expressions
  cases expressions with
  | none => rfl
  | @some base other pair =>
      have same := similar.sameFace pair
      simp only
      rw [← same.kind, same.readText]
      split
      · next isMember =>
          obtain ⟨absent, absentToo⟩ | ⟨property, propertyToo, found, foundToo, properties⟩ :=
            rel_cases (similar.child "property" pair
              (Node.isClassPart_eq_false isMember (by decide)))
          · rw [absent, absentToo]
          · rw [found, foundToo]
            simp only [(similar.sameFace properties).readText]
      · rfl

theorem nameOf_eq
    (similar : Similarity related)
    (nodes : related first second)
    (binding : Option String) :
    nameOf first binding = nameOf second binding := by
  have same := similar.sameFace nodes
  unfold nameOf Node.requireField
  rw [same.kind, same.line]
  obtain ⟨absent, absentToo⟩ | ⟨left, right, found, foundToo, names⟩ :=
    rel_cases (similar.name nodes)
  · rw [absent, absentToo]
  · rw [found, foundToo]
    simp only [names.missing, names.readText]
    split
    · split
      · rfl
      · simp only [bind, Except.bind, names.readText]
    · rfl

/-- Related classes whose superclasses agree are entered alike. -/
theorem enterClass_eq
    (similar : Similarity related)
    (nodes : related first second)
    (bases : Agree (Option.Rel related) (superclass first) (superclass second))
    (options : ClassOptions) :
    enterClass options first = enterClass options second := by
  unfold enterClass
  rw [similar.isComponent_eq bases]
  simp only [similar.nameOf_eq nodes]

theorem enterElementInside_eq
    (similar : Similarity related)
    (nodes : related first second)
    (plain : first.isClassPart = false) :
    Class.enterElement first = Class.enterElement second := by
  unfold Class.enterElement
  rw [similar.enterElement_eq nodes plain]

/-- At related nodes the class pattern takes the same step, if the superclasses of
classes agree and fields have the same name. -/
theorem classHandler_eq
    (similar : Similarity related)
    (nodes : related first second)
    (bases : first.isClassPart = true →
      Agree (Option.Rel related) (superclass first) (superclass second))
    {options : ClassOptions}
    {handler : Walk.Handler Progress Failure}
    (handled : Class.handlers options first.kind = some handler) :
    handler first = handler second := by
  have names : first.isClassPart = false →
      Option.Rel Node.SameName (fieldName? first) (fieldName? second) := by
    intro plain
    unfold fieldName?
    obtain ⟨absent, absentToo⟩ | ⟨left, right, found, foundToo, pair⟩ :=
      rel_cases (similar.child "property" nodes plain)
    · rw [absent, absentToo]
      exact similar.name nodes
    · rw [found, foundToo]
      exact .some (similar.sameFace pair).sameName
  have plainOf : ∀ {kind : String}, first.kind = kind →
      ["class_declaration", "class", "class_body"].contains kind = false →
        first.isClassPart = false := by
    intro kind isKind other
    exact Node.isClassPart_eq_false (beq_iff_eq.mpr isKind) other
  unfold Class.handlers at handled
  split at handled
  · next isKind =>
      obtain rfl := Option.some.inj handled
      exact similar.enterClass_eq nodes (bases (by rw [Node.isClassPart, isKind]; rfl)) options
  · next isKind =>
      obtain rfl := Option.some.inj handled
      exact similar.enterClass_eq nodes (bases (by rw [Node.isClassPart, isKind]; rfl)) options
  · next isKind =>
      obtain rfl := Option.some.inj handled
      exact similar.enterDeclarator_eq nodes (plainOf isKind (by decide))
  · next isKind =>
      obtain rfl := Option.some.inj handled
      exact similar.enterStateAssignment_eq nodes (plainOf isKind (by decide))
  · next isKind =>
      obtain rfl := Option.some.inj handled
      have plain := plainOf isKind (by decide)
      exact similar.enterField_eq (similar.child "value" nodes plain) (names plain)
  · next isKind =>
      obtain rfl := Option.some.inj handled
      have plain := plainOf isKind (by decide)
      exact similar.enterField_eq (similar.child "value" nodes plain) (names plain)
  · next isKind =>
      obtain rfl := Option.some.inj handled
      exact similar.enterElementInside_eq nodes (plainOf isKind (by decide))
  · next isKind =>
      obtain rfl := Option.some.inj handled
      exact similar.enterElementInside_eq nodes (plainOf isKind (by decide))
  · cases handled

end Class

end Similarity
end ComponentOutline
