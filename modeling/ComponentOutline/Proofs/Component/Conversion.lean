import ComponentOutline.Proofs.Component.FirstFailure
import ComponentOutline.Proofs.Literal.Conversion

/-!
# Failures that are no faults

In a tree that can be read, an extraction and the evaluation of a literal fail with a
fault or because a token of the source is not converted.  Which tokens of the grammar
these are is known: the escapes beyond the last code point, the numbers with too many
digits or with an idle zero, and the overlong numbers under keys.
-/

namespace ComponentOutline

namespace Node

/-! ## What a supplier inherits -/

/-- What holds everywhere in the members of an object holds in its supplier. -/
theorem Everywhere.of_supplier?
    {holds : Node → Prop}
    {options : FactoryOptions}
    {members : List Node}
    {function : Node}
    (each : ∀ member ∈ members, member.Everywhere holds)
    (found : Factory.supplier? options members = .ok (some function)) :
    function.Everywhere holds := by
  induction members with
  | nil => cases found
  | cons member rest inductionHypothesis =>
      obtain ⟨first, others⟩ := List.forall_mem_cons.mp each
      rw [Factory.supplier?] at found
      split at found
      · obtain ⟨name, -, found⟩ := Effect.ok_of_except_bind found
        split at found
        · obtain ⟨value, required, isValue⟩ := Effect.ok_of_except_map found
          obtain rfl := Option.some.inj isValue
          exact first.of_child? (child?_of_requireField required)
        · exact inductionHypothesis others found
      · split at found
        · obtain ⟨name, -, found⟩ := Effect.ok_of_except_bind found
          split at found
          · cases found
            exact first
          · exact inductionHypothesis others found
        · exact inductionHypothesis others found

theorem Everywhere.of_returnedExpression
    {holds : Node → Prop}
    {function value : Node}
    (everywhere : function.Everywhere holds)
    (found : Factory.returnedExpression function = .ok value) :
    value.Everywhere holds := by
  unfold Factory.returnedExpression at found
  split at found
  · cases found
  · obtain ⟨body, required, found⟩ := Effect.ok_of_except_bind found
    have inBody := everywhere.of_child? (child?_of_requireField required)
    split at found
    · cases found
      exact inBody
    · split at found
      · next statement isStatement =>
          have inStatement :=
            inBody.of_mem_namedChildren (List.mem_of_find?_eq_some isStatement)
          split at found
          · next argument isFirst =>
              cases found
              exact inStatement.of_mem_contents (List.mem_of_mem_head? isFirst)
          · cases found
      · cases found

theorem Everywhere.of_configuration?
    {holds : Node → Prop}
    {call object : Node}
    (everywhere : call.Everywhere holds)
    (found : Factory.configuration? call = some object) :
    object.Everywhere holds := by
  have isFirst := (Option.filter_eq_some_iff.mp found).1
  unfold Factory.firstArgument? at isFirst
  split at isFirst
  · next arguments held =>
      split at isFirst
      · exact (everywhere.of_child? held).of_mem_contents (List.mem_of_mem_head? isFirst)
      · cases isFirst
  · cases isFirst

end Node

/-! ## The failures of an extraction -/

namespace FailsOnly

variable {α : Type} {allowed : Failure → Prop} {result : Except Failure α}

theorem failureOf
    {failure : Failure}
    (fails : FailsOnly allowed result)
    (failed : failureOf result = some failure) :
    allowed failure := by
  cases result with
  | ok value => cases failed
  | error found =>
      cases failed
      exact fails _ rfl

/-- A computation that ends at its first failure fails in allowed ways if all failures are
allowed. -/
theorem of_endsAtFirst
    {ι : Type}
    {failure? : List ι → ι → Option Failure}
    {items : List ι}
    (ends : EndsAtFirst failure? items result)
    (each : ∀ before, ∀ item ∈ items, ∀ failure,
      failure? before item = some failure → allowed failure) :
    FailsOnly allowed result := by
  intro failure failed
  obtain ⟨before, item, after, split, -, fails⟩ := (ends.fails_iff failure).mp failed
  have isItem : item ∈ items := by simp [split]
  exact each before item isItem failure fails

end FailsOnly

namespace Covers

variable {allowed : Failure → Prop} {root : Node}

theorem requireField
    (covers : Covers allowed root)
    (node : Node)
    (field : String) :
    FailsOnly allowed (node.requireField field) := by
  unfold Node.requireField
  split
  · split
    · exact .of_error (covers.faults _)
    · exact .of_ok _
  · exact .of_error (covers.faults _)

/-- A target that cannot be used is among the allowed failures. -/
theorem unusable?
    {node : Node}
    {field : String}
    {failure : Failure}
    (covers : Covers allowed root)
    (unusable : node.unusable? field = some failure) :
    allowed failure := by
  obtain ⟨child, -, -, usable⟩ | ⟨other, required, unusableToo⟩ :=
    node.requireField_cases field
  · rw [usable] at unusable
    cases unusable
  · rw [unusable] at unusableToo
    cases unusableToo
    exact covers.requireField node field failure required

theorem keyName
    {member : Node}
    {field : String}
    (covers : Covers allowed member) :
    FailsOnly allowed (Factory.keyName (member.child? field)) := by
  cases found : member.child? field with
  | none => exact .of_ok none
  | some key =>
      have coversKey : Covers allowed key :=
        covers.inside fun _ everywhere => everywhere.of_child? found
      unfold Factory.keyName
      simp only
      split
      · exact coversKey.decodeString.map _
      · split
        · exact coversKey.readText.map _
        · exact .of_ok none

theorem supplier?
    {members : List Node}
    (options : FactoryOptions)
    (each : ∀ member ∈ members, Covers allowed member) :
    FailsOnly allowed (Factory.supplier? options members) := by
  induction members with
  | nil => exact .of_ok none
  | cons member rest inductionHypothesis =>
      obtain ⟨first, others⟩ := List.forall_mem_cons.mp each
      rw [Factory.supplier?]
      split
      · apply first.keyName.bind
        intro name _
        split
        · exact (first.requireField member "value").map _
        · exact inductionHypothesis others
      · split
        · apply first.keyName.bind
          intro name _
          split
          · exact .of_ok _
          · exact inductionHypothesis others
        · exact inductionHypothesis others

theorem returnedExpression (covers : Covers allowed root) :
    FailsOnly allowed (Factory.returnedExpression root) := by
  unfold Factory.returnedExpression
  split
  · exact covers.reject root _
  · apply (covers.requireField root "body").bind
    intro body _
    split
    · exact .of_ok body
    · split
      · split
        · exact .of_ok _
        · exact .of_error (covers.faults _)
      · exact .of_error (covers.faults _)

/-- Reading the state of a configuration fails in ways that its tree allows. -/
theorem suppliedState
    (covers : Covers allowed root)
    (options : FactoryOptions) :
    FailsOnly allowed (Factory.readState options root) := by
  unfold Factory.readState
  split
  · exact .of_ok none
  · next object found =>
      have coversObject : Covers allowed object :=
        covers.inside fun _ everywhere => everywhere.of_configuration? found
      have members : FailsOnly allowed (Factory.supplier? options object.namedChildren) := by
        refine supplier? options ?_
        intro member isMember
        exact coversObject.inside fun _ everywhere => everywhere.of_mem_namedChildren isMember
      apply members.bind
      intro supplier searched
      split
      · exact .of_ok none
      · next function =>
          have coversFunction : Covers allowed function := by
            apply coversObject.inside
            intro _ everywhere
            exact Node.Everywhere.of_supplier?
              (fun member isMember => everywhere.of_mem_namedChildren isMember) searched
          apply coversFunction.returnedExpression.bind
          intro initializer returned
          have coversInitializer : Covers allowed initializer :=
            coversFunction.inside fun _ everywhere =>
              everywhere.of_returnedExpression returned
          exact coversInitializer.componentState.bind fun state _ => .of_ok _

theorem assignedState (covers : Covers allowed root) :
    FailsOnly allowed (Class.readState root) := by
  unfold Class.readState
  split
  · next initializer found =>
      have coversInitializer : Covers allowed initializer :=
        covers.inside fun _ everywhere => everywhere.of_child? found
      exact coversInitializer.componentState
  · exact .of_error (covers.faults _)

/-- The failure of a place where the search for a factory call stops is allowed. -/
theorem placeFailure?
    {options : FactoryOptions}
    {before : List Occurrence}
    {place : Occurrence}
    {failure : Failure}
    (covers : Covers allowed place.node)
    (failed : Factory.failure? options before place = some failure) :
    allowed failure := by
  unfold Factory.failure? at failed
  split at failed
  · exact covers.unusable? failed
  · exact covers.unusable? failed
  · split at failed
    · cases failed
    · obtain unusable | ⟨-, unread⟩ := Option.or_eq_some_iff.mp failed
      · exact covers.unusable? unusable
      · split at unread
        · exact (covers.suppliedState options).failureOf unread
        · cases unread
  · cases failed

theorem triggerFailure?
    {before : List Class.Stop}
    {stop : Class.Stop}
    {failure : Failure}
    (covers : Covers allowed stop.node)
    (failed : Class.triggerFailure? before stop = some failure) :
    allowed failure := by
  unfold Class.triggerFailure? at failed
  split at failed
  · obtain unusable | ⟨-, unread⟩ := Option.or_eq_some_iff.mp failed
    · split at unusable
      · exact covers.unusable? unusable
      · cases unusable
    · exact covers.assignedState.failureOf unread
  · cases failed

theorem classFailure?
    {bases : List Text}
    {node : Node}
    {failure : Failure}
    (covers : Covers allowed root)
    (failed : Class.classFailure? bases node = some failure) :
    allowed failure := by
  obtain noValue | ⟨-, noName⟩ := Option.or_eq_some_iff.mp failed
  · obtain ⟨clause, -, unusable⟩ := Option.bind_eq_some_iff.mp noValue
    exact covers.unusable? unusable
  · split at noName
    · unfold Class.nameFailure? at noName
      split at noName
      · exact covers.unusable? noName
      · cases noName
    · cases noName

/-- The failure of a stop of the search for a component class is allowed. -/
theorem stopFailure?
    {options : ClassOptions}
    {before : List Class.Stop}
    {stop : Class.Stop}
    {failure : Failure}
    (covers : Covers allowed stop.node)
    (failed : Class.failure? options before stop = some failure) :
    allowed failure := by
  unfold Class.failure? at failed
  split at failed
  · exact covers.unusable? failed
  · obtain unusable | ⟨-, triggered⟩ := Option.or_eq_some_iff.mp failed
    · exact covers.unusable? unusable
    · exact covers.triggerFailure? triggered
  · exact covers.triggerFailure? failed
  · exact covers.triggerFailure? failed
  · split at failed
    · cases failed
    · exact covers.classFailure? failed
  · split at failed
    · cases failed
    · exact covers.classFailure? failed
  · cases failed

/-- An extraction by either pattern fails only as allowed. -/
theorem byPattern
    {settings : Settings}
    {calls : FactoryOptions}
    {classes : ClassOptions}
    (covers : Covers allowed root)
    (callOptions : FactoryOptions.ofValues .null .null settings = .ok calls)
    (classOptions : ClassOptions.ofValue .null settings = .ok classes)
    (pattern : Pattern)
    (log : Log) :
    FailsOnly allowed (Extraction.byPattern settings pattern root log).1 := by
  cases pattern with
  | factoryCall =>
      refine FailsOnly.of_endsAtFirst
        (Extraction.factoryCall_endsAtFirst callOptions covers.readable log) ?_
      intro before place isPlace failure failed
      have coversPlace : Covers allowed place.node :=
        covers.inside fun _ everywhere => everywhere.of_mem_reached isPlace
      exact coversPlace.placeFailure? failed
  | classDeclaration =>
      refine FailsOnly.of_endsAtFirst
        (Extraction.classDeclaration_endsAtFirst classOptions covers.readable log) ?_
      intro before stop isStop failure failed
      have isNode : stop.node ∈ root.preorder :=
        (Class.stops_sublist classes.bases root).subset (List.mem_map_of_mem isStop)
      have coversStop : Covers allowed stop.node :=
        covers.inside fun _ everywhere => everywhere.of_mem_preorder isNode
      exact coversStop.stopFailure? failed

end Covers

/-! ## Where failures come from -/

/-- A failure is one that is reported with a category and a context. -/
def Failure.IsFault (failure : Failure) : Prop :=
  ∃ fault, failure = .fault fault

/-- A failure is explained by a tree if it is a fault, or if a token of the tree is
inconvertible and fails with it. -/
def Node.Explains (root : Node) (failure : Failure) : Prop :=
  failure.IsFault ∨
    ∃ node ∈ root.preorder, node.IsInconvertible ∧ node.FailsToConvert failure

/-- In a tree that can be read, the tokens that fail are the inconvertible ones. -/
theorem Node.isInconvertible_iff
    {root node : Node}
    (readable : root.IsReadable)
    (tokens : root.Everywhere Node.HasToken)
    (isNode : node ∈ root.preorder) :
    node.IsInconvertible ↔ ∃ failure, node.FailsToConvert failure := by
  obtain ⟨text, decoded⟩ := readable node isNode
  have read := Node.readText_eq_ok_iff.mpr decoded
  constructor
  · intro inconvertible
    exact inconvertible.fails (tokens node isNode)
  · rintro ⟨failure, fails⟩
    exact fails.isInconvertible read (tokens node isNode)

/-- With readable text, all failures of a tree are explained by faults and by tokens in it. -/
theorem Node.covers_explains
    {root : Node}
    (readable : root.IsReadable)
    (tokens : root.Everywhere Node.HasToken) :
    Covers root.Explains root where
  faults := fun fault => .inl ⟨fault, rfl⟩
  readable := readable
  tokens := by
    intro node isNode failure fails
    have inconvertible := (isInconvertible_iff readable tokens isNode).mpr ⟨failure, fails⟩
    exact .inr ⟨node, isNode, inconvertible, fails⟩

namespace Extraction

/-- With usable settings, in a tree that can be read and has the tokens of the grammar,
every call fails with a fault or as one of the inconvertible tokens does, and these are
exactly the tokens that fail. -/
theorem fails_by_fault_or_token
    {settings : Settings}
    {calls : FactoryOptions}
    {classes : ClassOptions}
    {root : Node}
    (callOptions : FactoryOptions.ofValues .null .null settings = .ok calls)
    (classOptions : ClassOptions.ofValue .null settings = .ok classes)
    (readable : root.IsReadable)
    (tokens : root.Everywhere Node.HasToken)
    (log : Log) :
    (∀ pattern, FailsOnly root.Explains (byPattern settings pattern root log).1) ∧
      FailsOnly root.Explains (Literal.evaluate root) ∧
      FailsOnly root.Explains (Literal.componentState root) ∧
      ∀ node ∈ root.preorder,
        node.IsInconvertible ↔ ∃ failure, node.FailsToConvert failure := by
  have covers := Node.covers_explains readable tokens
  refine ⟨?_, covers.evaluate, covers.componentState, ?_⟩
  · intro pattern
    exact covers.byPattern callOptions classOptions pattern log
  · intro node isNode
    exact Node.isInconvertible_iff readable tokens isNode

/-- The tree of a class with the state `a`, a string with an escape beyond the last code
point. -/
def beyondTree : Node :=
  .ofText "class_declaration" none
    "class A extends Component \x7bstate = \x7ba: '\\u\x7b110000\x7d'\x7d\x7d" [
    .ofText "identifier" (some "name") "A" [],
    .ofText "class_heritage" none "extends Component" [
      .ofText "identifier" none "Component" []],
    .ofText "class_body" (some "body")
      "\x7bstate = \x7ba: '\\u\x7b110000\x7d'\x7d\x7d" [
      .ofText "field_definition" (some "member")
        "state = \x7ba: '\\u\x7b110000\x7d'\x7d" [
        .ofText "property_identifier" (some "property") "state" [],
        .ofText "object" (some "value") "\x7ba: '\\u\x7b110000\x7d'\x7d" [
          .ofText "pair" none "a: '\\u\x7b110000\x7d'" [
            .ofText "property_identifier" (some "key") "a" [],
            .ofText "string" (some "value") "'\\u\x7b110000\x7d'" [
              .ofText "escape_sequence" none "\\u\x7b110000\x7d" []]]]]]]

theorem isReadable_beyondTree : beyondTree.IsReadable := by
  decide +kernel

theorem hasToken_beyondTree : beyondTree.Everywhere Node.HasToken := by
  have kinds : beyondTree.Everywhere fun node =>
      node.kind ≠ "number" ∧
        (node.kind = "escape_sequence" →
          node.label.bytes = "\\u\x7b110000\x7d".toUTF8.data.toList) := by
    decide +kernel
  have plain : Numeral.IsPlain 16 ['1', '1', '0', '0', '0', '0'] :=
    ⟨List.all_eq_true.mp rfl, List.cons_ne_nil _ _⟩
  intro node isNode
  obtain ⟨noNumber, bytes⟩ := kinds node isNode
  refine ⟨?_, fun isNumber => absurd isNumber noNumber⟩
  intro isEscape sequence read
  rw [Node.readText, Node.text, bytes isEscape] at read
  obtain rfl : "\\u\x7b110000\x7d" = sequence := Except.ok.inj read
  exact .braced plain

/-- An escape beyond the last code point ends the extraction, as its conversion fails. -/
theorem byPattern_beyondTree :
    (byPattern .default .classDeclaration beyondTree []).1 =
      .error (.conversion .noCodePoint) := by
  have ends := classDeclaration_endsAtFirst ofValue_default isReadable_beyondTree []
  exact (ends.fails_iff _).mpr (firstFailure?_eq_some_iff.mp rfl)

/-- The failure at the tree is that of its escape. -/
theorem fails_by_fault_or_token_beyondTree :
    ∃ node ∈ beyondTree.preorder,
      node.IsInconvertible ∧ node.FailsToConvert (.conversion .noCodePoint) := by
  obtain ⟨byEach, -⟩ := fails_by_fault_or_token ofValues_default ofValue_default
    isReadable_beyondTree hasToken_beyondTree []
  obtain ⟨fault, isFault⟩ | fromToken := byEach .classDeclaration _ byPattern_beyondTree
  · cases isFault
  · exact fromToken

/-- Not every failure is a fault, even if all tokens are those of the grammar. -/
theorem not_forall_fails_by_fault :
    ¬ ∀ root : Node, root.IsReadable → root.Everywhere Node.HasToken →
      (∀ pattern, FailsOnly Failure.IsFault (byPattern .default pattern root []).1) ∧
        FailsOnly Failure.IsFault (Literal.evaluate root) ∧
        FailsOnly Failure.IsFault (Literal.componentState root) := by
  intro always
  obtain ⟨byEach, -⟩ := always beyondTree isReadable_beyondTree hasToken_beyondTree
  obtain ⟨fault, isFault⟩ := byEach .classDeclaration _ byPattern_beyondTree
  cases isFault

end Extraction
end ComponentOutline
