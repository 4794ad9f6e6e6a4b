import ComponentOutline.Proofs.Effect.EndsAtFirst
import ComponentOutline.Proofs.Literal.Conversion
import ComponentOutline.Proofs.Literal.Grammar

/-!
# The first complaint of an evaluation

In a tree that can be read and whose tokens are converted, an evaluation returns exactly if
all its demands are met, and otherwise it rejects the node of the first demand that is not.
Together with the grammar this says which expressions have a value, and which node of the
others is to blame.
-/

namespace ComponentOutline

/-- The text of a node is converted, if it is an escape, a number or a key. -/
def Node.IsConvertible (node : Node) : Prop :=
  ∀ failure, ¬ node.FailsToConvert failure

namespace Literal

variable {node : Node}

/-- A result is a failure exactly if one of the demands is not met, and then it rejects the
node of the first of them. -/
abbrev Blames {α : Type} (demands : List Demand) (result : Except Failure α) : Prop :=
  FailsWith Demand.failure? demands result

theorem failure?_eq_none_iff {demand : Demand} :
    demand.failure? = none ↔ demand.complaint? = none :=
  Option.map_eq_none_iff

theorem failure?_eq_some
    {demand : Demand}
    {reason : String}
    (complaint : demand.complaint? = some reason) :
    demand.failure? = some (demand.node.reject reason) := by
  rw [Demand.failure?, complaint]
  rfl

namespace Blames

/-! ## Strings and keys -/

/-- A part that can be converted fails only if it is a reference to a character. -/
theorem decodePart
    (readable : node.IsReadable)
    (convertible : node.IsConvertible) :
    Blames [⟨.part, node⟩] (decodePart node) := by
  have passed (other : node.kind ≠ "html_character_reference") :
      Demand.failure? ⟨.part, node⟩ = none :=
    failure?_eq_none_iff.mpr (by simpa [Demand.complaint?, partComplaint?] using other)
  obtain ⟨text, read⟩ := readable.readText
  by_cases escape : node.kind = "escape_sequence"
  · cases decoded : Literal.decodePart node with
    | error failure => exact absurd (.escape escape decoded) (convertible failure)
    | ok part => exact (FailsWith.of_ok part rfl).cons (passed (by simp [escape]))
  · unfold Literal.decodePart
    rw [if_neg (by simpa using escape), read]
    split
    · next fragment =>
        exact (FailsWith.of_ok _ rfl).cons (passed (by simp [eq_of_beq fragment]))
    · split
      · next reference =>
          apply FailsWith.of_error
          apply failure?_eq_some
          simp [Demand.complaint?, partComplaint?, complainUnless, eq_of_beq reference]
      · next other =>
          exact (FailsWith.of_ok _ rfl).cons (passed (by simpa using other))

/-- A string is blamed on its parts, from left to right. -/
theorem decodeString
    (readable : node.IsReadable)
    (convertible : node.Everywhere Node.IsConvertible) :
    Blames (partDemands node.children) (decodeString node) := by
  have parts : ∀ nodes : List Node,
      (∀ part ∈ nodes, Blames [⟨.part, part⟩] (Literal.decodePart part)) →
        Blames (nodes.map fun part => ⟨.part, part⟩) (decodeParts nodes) := by
    intro nodes each
    induction nodes with
    | nil => exact .of_ok [] rfl
    | cons part rest inductionHypothesis =>
        obtain ⟨first, others⟩ := List.forall_mem_cons.mp each
        rw [decodeParts, List.map_cons, ← List.singleton_append]
        apply first.bind
        intro front _
        exact (inductionHypothesis others).map (front ++ ·)
  apply FailsWith.map
  apply parts
  intro part isPart
  exact decodePart (readable.of_mem_namedChildren isPart)
    (convertible.of_mem_namedChildren isPart).here

/-- A key is blamed on its demands. -/
theorem propertyKey
    (readable : node.IsReadable)
    (convertible : node.Everywhere Node.IsConvertible)
    (under : node.label.field = some "key") :
    Blames (demands .key node) (propertyKey node) := by
  have passed (usable : node.kind ∈ ["property_identifier", "string", "number"]) :
      Demand.failure? ⟨.key, node⟩ = none :=
    failure?_eq_none_iff.mpr (by simpa [Demand.complaint?, keyComplaint?] using usable)
  obtain ⟨text, read⟩ := readable.readText
  rw [demands_key]
  by_cases number : node.kind = "number"
  · cases found : Literal.propertyKey node with
    | error failure => exact absurd (.key number under found) (convertible.here failure)
    | ok name =>
        rw [if_neg (by simp [number])]
        exact (FailsWith.of_ok name rfl).cons (passed (by simp [number]))
  · unfold Literal.propertyKey
    rw [read]
    split
    · next isString =>
        rw [if_neg (by simp [eq_of_beq isString])]
        exact (decodeString readable convertible).cons (passed (by simp [eq_of_beq isString]))
    · next noString =>
        split
        · next isName =>
            exact (FailsWith.of_ok _ rfl).cons (passed (by simp [eq_of_beq isName]))
        · next noName =>
            rw [if_neg (by simpa using number)]
            apply FailsWith.of_error
            apply failure?_eq_some
            have unusable : node.kind ≠ "property_identifier" ∧ node.kind ≠ "string" := by
              simpa using And.intro noName noString
            simp [Demand.complaint?, keyComplaint?, complainUnless, unusable, number]

/-! ## Signs -/

theorem signOf?_isSome (text : String) :
    (signOf? text).isSome = ["+", "-"].contains text := by
  unfold signOf?
  by_cases minus : text = "-"
  · simp [minus]
  · by_cases plus : text = "+"
    · simp [plus]
    · simp [minus, plus]

/-- Reading the sign of a number is blamed on the operator and on the operand being there. -/
theorem readSign
    (readable : node.IsReadable)
    (kind : node.kind = "unary_expression") :
    Blames [⟨.expression, node⟩] (readSign node) := by
  have complaint : Demand.complaint? ⟨.expression, node⟩ = operatorComplaint? node := by
    simp [Demand.complaint?, expressionComplaint?, kind]
  unfold operatorComplaint? at complaint
  unfold Literal.readSign
  cases operated : node.child? "operator" with
  | none =>
      rw [operated] at complaint
      exact .of_error (failure?_eq_some complaint)
  | some operator =>
      cases held : node.child? "argument" with
      | none =>
          rw [operated, held] at complaint
          exact .of_error (failure?_eq_some complaint)
      | some argument =>
          obtain ⟨text, read⟩ := (readable.of_child? operated).here
          rw [operated, held] at complaint
          simp only [read, ← signOf?_isSome] at complaint
          have readText := Node.readText_eq_ok_iff.mpr read
          apply FailsWith.bind_of_ok readText
          cases signed : signOf? text with
          | none =>
              rw [signed] at complaint
              exact .of_error (failure?_eq_some complaint)
          | some sign =>
              rw [signed] at complaint
              exact (FailsWith.of_ok sign rfl).cons (failure?_eq_none_iff.mpr complaint)

/-- A sign is blamed on its operand when that has a value which is no number. -/
theorem applySign
    {argument : Node}
    {value : Value}
    (held : node.child? "argument" = some argument)
    (evaluated : evaluate argument = .ok value)
    (sign : Number → Number) :
    Blames [⟨.sign, node⟩] (applySign node sign value) := by
  have complaint : Demand.complaint? ⟨.sign, node⟩ = signComplaint? node := rfl
  rw [signComplaint?, held, Option.map_some, evaluated] at complaint
  cases value with
  | number number => exact (FailsWith.of_ok _ rfl).cons (failure?_eq_none_iff.mpr complaint)
  | _ => exact .of_error (failure?_eq_some complaint)

/-! ## Expressions and members -/

theorem constant?_isSome (name : String) :
    (constant? name).isSome = ["undefined", "NaN", "Infinity"].contains name := by
  unfold constant?
  by_cases undefined : name = "undefined"
  · simp [undefined]
  · by_cases nan : name = "NaN"
    · simp [nan]
    · by_cases infinity : name = "Infinity"
      · simp [infinity]
      · simp [undefined, nan, infinity]

/-- An atom is blamed on itself, and a string also on its parts. -/
theorem evaluateAtom
    (readable : node.IsReadable)
    (convertible : node.Everywhere Node.IsConvertible)
    (isAtom : expressionComplaint? node = atomComplaint? node)
    (noNumber : node.kind ≠ "number") :
    Blames
      (⟨.expression, node⟩ :: if node.kind == "string" then partDemands node.children else [])
      (evaluateAtom node) := by
  have accepted (value : Value) (noComplaint : atomComplaint? node = none) :
      Blames [⟨.expression, node⟩] (.ok value) :=
    (FailsWith.of_ok value rfl).cons (failure?_eq_none_iff.mpr (isAtom.trans noComplaint))
  have rejected (reason : String) (complaint : atomComplaint? node = some reason) :
      Blames [⟨.expression, node⟩] (.error (node.reject reason) : Except Failure Value) :=
    .of_error (failure?_eq_some (isAtom.trans complaint))
  unfold Literal.evaluateAtom
  by_cases isString : node.kind = "string"
  · have noComplaint : atomComplaint? node = none := by simp [atomComplaint?, isString]
    simp only [isString, beq_self_eq_true, if_true]
    exact ((decodeString readable convertible).map _).cons
      (failure?_eq_none_iff.mpr (isAtom.trans noComplaint))
  rw [if_neg (by simpa using isString)]
  split
  · next kind => exact absurd kind isString
  · next kind => exact absurd kind noNumber
  · next kind => exact accepted _ (by simp [atomComplaint?, kind])
  · next kind => exact accepted _ (by simp [atomComplaint?, kind])
  · next kind => exact accepted _ (by simp [atomComplaint?, kind])
  · next kind => exact accepted _ (by simp [atomComplaint?, kind])
  · next kind =>
      obtain ⟨name, decoded⟩ := readable.here
      have complaint : atomComplaint? node =
          complainUnless (constant? name).isSome s!"reference to binding '{name}'" := by
        simp only [atomComplaint?, kind, nameComplaint?, decoded, constant?_isSome]
      have read := Node.readText_eq_ok_iff.mpr decoded
      apply FailsWith.bind_of_ok read
      cases found : constant? name with
      | some value => exact accepted value (by simp [complaint, found])
      | none => exact rejected _ (by simp [complaint, found, complainUnless])
  · next kind => exact rejected _ (by simp [atomComplaint?, kind])
  · exact rejected _ (by simp_all [atomComplaint?])

/-- A number that can be converted has a value. -/
theorem evaluateNumber
    (convertible : node.IsConvertible)
    (number : node.kind = "number") :
    Blames [⟨.expression, node⟩] (evaluate node) := by
  cases found : Literal.evaluate node with
  | error failure => exact absurd (.number number found) (convertible failure)
  | ok value =>
      have noComplaint : expressionComplaint? node = none := by
        simp [expressionComplaint?, number, isWrapper, atomComplaint?]
      exact (FailsWith.of_ok value rfl).cons (failure?_eq_none_iff.mpr noComplaint)

/-- A sign is read before its operand, which comes before the sign is applied. -/
theorem evaluateSigned
    (readable : node.IsReadable)
    (isSigned : node.kind = "unary_expression")
    (argument : ∀ child, node.child? "argument" = some child →
      Blames (demands .expression child) (evaluate child)) :
    Blames
      (⟨.expression, node⟩ ::
        ((node.child? "argument").elim [] (demands .expression) ++ [⟨.sign, node⟩]))
      (do
        let sign ← Literal.readSign node
        let value ← evaluateOr (node.reject "incomplete property") (node.child? "argument")
        Literal.applySign node sign value) := by
  rw [← List.singleton_append]
  apply (readSign readable isSigned).bind
  intro sign signed
  cases held : node.child? "argument" with
  | none =>
      -- a sign is only read in front of an operand
      unfold Literal.readSign at signed
      rw [held] at signed
      cases operated : node.child? "operator" with
      | none =>
          rw [operated] at signed
          cases signed
      | some operator =>
          rw [operated] at signed
          cases signed
  | some child =>
      apply (argument child held).bind
      intro value evaluated
      exact applySign held evaluated sign

/-- A wrapper is blamed on being empty, or else on its first content. -/
theorem evaluateFirst
    (complaint : expressionComplaint? node =
      complainUnless (!node.contents.isEmpty) "empty expression")
    (contents : ∀ child ∈ node.contents,
      Blames (demands .expression child) (evaluate child)) :
    Blames (⟨.expression, node⟩ :: node.contents.head?.elim [] (demands .expression))
      (evaluateOr (node.reject "empty expression") node.contents.head?) := by
  cases filled : node.contents with
  | nil =>
      rw [filled] at complaint
      exact .of_error (failure?_eq_some complaint)
  | cons child rest =>
      rw [filled] at complaint
      have first : child ∈ node.contents := filled ▸ List.mem_cons_self
      exact (contents child first).cons (failure?_eq_none_iff.mpr complaint)

/-- If all parts of an expression are blamed on their demands, then so is the expression. -/
theorem evaluate_of_below
    (readable : node.IsReadable)
    (convertible : node.Everywhere Node.IsConvertible)
    (members : ∀ child ∈ node.contents, ∀ entries,
      Blames (demands .member child) (addMember entries child))
    (contents : ∀ child ∈ node.contents,
      Blames (demands .expression child) (evaluate child))
    (argument : ∀ child, node.child? "argument" = some child →
      Blames (demands .expression child) (evaluate child)) :
    Blames (demands .expression node) (evaluate node) := by
  have passed (noComplaint : expressionComplaint? node = none) :
      Demand.failure? ⟨.expression, node⟩ = none :=
    failure?_eq_none_iff.mpr noComplaint
  rw [demands_expression]
  by_cases number : node.kind = "number"
  · simp only [number, String.reduceBEq, Bool.false_eq_true, if_false, isWrapper, Bool.or_self]
    exact evaluateNumber convertible.here number
  rw [evaluate_eq]
  split
  · next isObject =>
      apply FailsWith.cons (passed (by simp [expressionComplaint?, eq_of_beq isObject]))
      exact (FailsWith.foldlM members []).map _
  next noObject =>
  split
  · next isArray =>
      apply FailsWith.cons (passed (by simp [expressionComplaint?, eq_of_beq isArray]))
      exact (FailsWith.mapM contents).map _
  next noArray =>
  split
  · next isSigned => exact evaluateSigned readable (eq_of_beq isSigned) argument
  next noSign =>
  split
  · next wraps =>
      apply evaluateFirst ?_ contents
      simp [expressionComplaint?, noObject, noArray, noSign, wraps]
  next noWrapper =>
  apply evaluateAtom readable convertible ?_ number
  simp [expressionComplaint?, noObject, noArray, noSign, noWrapper]

/-- If the value of a member is blamed on its demands, then so is the member; the key comes last. -/
theorem addMember_of_below
    (readable : node.IsReadable)
    (convertible : node.Everywhere Node.IsConvertible)
    (value : ∀ child, node.child? "value" = some child →
      Blames (demands .expression child) (evaluate child))
    (entries : List (Text × Value)) :
    Blames (demands .member node) (addMember entries node) := by
  have complaint : Demand.complaint? ⟨.member, node⟩ = memberComplaint? node := rfl
  unfold memberComplaint? at complaint
  rw [demands_member]
  unfold addMember
  by_cases kind : node.kind = "pair"
  · rw [if_neg (by simp [kind])]
    rw [if_pos (by simp [kind])] at complaint
    cases keyed : node.child? "key" with
    | none =>
        rw [keyed] at complaint
        exact .of_error (failure?_eq_some complaint)
    | some key =>
        cases held : node.child? "value" with
        | none =>
            rw [keyed, held] at complaint
            exact .of_error (failure?_eq_some complaint)
        | some child =>
            rw [keyed, held] at complaint
            have under : key.label.field = some "key" := by
              simpa using List.find?_some keyed
            apply FailsWith.cons (failure?_eq_none_iff.mpr complaint)
            apply (value child held).bind
            intro evaluated _
            exact (propertyKey (readable.of_child? keyed) (convertible.of_child? keyed)
              under).map fun name => Entries.insert name evaluated entries
  · rw [if_pos (by simpa using kind)]
    rw [if_neg (by simpa using kind)] at complaint
    exact .of_error (failure?_eq_some complaint)

/-- Expressions and members are blamed alike.  They go together in the induction, because a
member holds its value one level further down than an item. -/
theorem evaluate_and_addMember (node : Node) :
    node.IsReadable → node.Everywhere Node.IsConvertible →
      Blames (demands .expression node) (evaluate node) ∧
        ∀ entries, Blames (demands .member node) (addMember entries node) := by
  induction node using Node.induction with
  | step label children inductionHypothesis =>
      intro readable convertible
      have below : ∀ child ∈ children,
          Blames (demands .expression child) (evaluate child) ∧
            ∀ entries, Blames (demands .member child) (addMember entries child) := by
        intro child isChild
        exact inductionHypothesis child isChild (readable.of_mem_children isChild)
          (convertible.of_mem_children isChild)
      have content : ∀ child ∈ (Node.mk label children).contents, child ∈ children := by
        intro child isContent
        exact Node.mem_children_of_mem_contents isContent
      have field : ∀ name child, (Node.mk label children).child? name = some child →
          Blames (demands .expression child) (evaluate child) := by
        intro name child found
        exact (below child (List.mem_of_find?_eq_some found)).1
      constructor
      · apply evaluate_of_below readable convertible
        · exact fun child isContent => (below child (content child isContent)).2
        · exact fun child isContent => (below child (content child isContent)).1
        · exact field "argument"
      · exact addMember_of_below readable convertible (field "value")

end Blames

/-! ## Which expressions have a value -/

/-- In a tree that can be read and whose tokens are converted, an expression has a value
exactly if it is in the literal grammar.  Otherwise the evaluation rejects the node of the
first demand, in the order of evaluation, that is not met. -/
theorem literal_or_first_complaint
    {root : Node}
    (readable : root.IsReadable)
    (convertible : root.Everywhere Node.IsConvertible) :
    ((∃ value, evaluate root = .ok value) ↔ IsLiteral root) ∧
      (¬ IsLiteral root →
        ∃ before demand after reason,
          demands .expression root = before ++ demand :: after ∧
            Met before ∧ demand.complaint? = some reason ∧
            evaluate root = .error (.fault (.unevaluable demand.node.kind reason
              demand.node.line demand.node.column))) := by
  have ends := (Blames.evaluate_and_addMember root readable convertible).1.endsAtFirst
  have met_iff : ∀ items : List Demand,
      NoneFails (fun _ => Demand.failure?) items ↔ Met items := by
    intro items
    simp only [noneFails_of_independent, failure?_eq_none_iff, Met]
  have returns : (∃ value, evaluate root = .ok value) ↔ IsLiteral root := by
    rw [ends.returns_iff, met_iff, (followsDemands root readable).expression]
  refine ⟨returns, ?_⟩
  intro noLiteral
  cases evaluated : evaluate root with
  | ok value => exact absurd (returns.mp ⟨value, evaluated⟩) noLiteral
  | error failure =>
      obtain ⟨before, demand, after, split, passed, failed⟩ :=
        (ends.fails_iff failure).mp evaluated
      obtain ⟨reason, complaint, rfl⟩ := Option.map_eq_some_iff.mp failed
      exact ⟨before, demand, after, reason, split, (met_iff before).mp passed, complaint, rfl⟩

/-- The tree of an object with the members `a: -1` and `[k]: v`.  Neither the key nor the
value of the second one is literal. -/
def mixedObject : Node :=
  .inLine 0 true "object" none "\x7ba: -1, [k]: v\x7d" [
    .inLine 0 false "\x7b" none "\x7b" [],
    .inLine 1 true "pair" none "a: -1" [
      .inLine 1 true "property_identifier" (some "key") "a" [],
      .inLine 2 false ":" none ":" [],
      .inLine 4 true "unary_expression" (some "value") "-1" [
        .inLine 4 false "-" (some "operator") "-" [],
        .inLine 5 true "number" (some "argument") "1" []]],
    .inLine 6 false "," none "," [],
    .inLine 8 true "pair" none "[k]: v" [
      .inLine 8 true "computed_property_name" (some "key") "[k]" [
        .inLine 8 false "[" none "[" [],
        .inLine 9 true "identifier" none "k" [],
        .inLine 10 false "]" none "]" []],
      .inLine 11 false ":" none ":" [],
      .inLine 13 true "identifier" (some "value") "v" []],
    .inLine 14 false "\x7d" none "\x7d" []]

theorem isConvertible_mixedObject : mixedObject.Everywhere Node.IsConvertible := by
  have tokens : mixedObject.Everywhere fun node =>
      node.kind ≠ "escape_sequence" ∧
        (node.kind = "number" →
          node.label.field ≠ some "key" ∧ node.label.bytes = "1".toUTF8.data.toList) := by
    decide +kernel
  intro node isNode failure fails
  cases fails with
  | escape kind failed => exact (tokens node isNode).1 kind
  | number kind failed =>
      have read : node.readText = .ok "1" := by
        rw [Node.readText, Node.text, ((tokens node isNode).2 kind).2]
        rfl
      rw [evaluate_of_number kind read] at failed
      cases failed
  | key kind under failed => exact ((tokens node isNode).2 kind).1 under

/-- In the second member the value is to blame, although the key stands in front of it. -/
theorem literal_or_first_complaint_mixedObject :
    ¬ IsLiteral mixedObject ∧
      ∃ before demand after,
        demands .expression mixedObject = before ++ demand :: after ∧ Met before ∧
          demand.complaint? = some "reference to binding 'v'" ∧
          demand.node.kind = "identifier" ∧ demand.node.line = 1 ∧ demand.node.column = 13 := by
  obtain ⟨returns, blames⟩ :=
    literal_or_first_complaint (by decide +kernel) isConvertible_mixedObject
  have evaluated : evaluate mixedObject =
      .error (.fault (.unevaluable "identifier" "reference to binding 'v'" 1 13)) := rfl
  have noLiteral : ¬ IsLiteral mixedObject := by
    rw [← returns, evaluated]
    exact nofun
  obtain ⟨before, demand, after, reason, split, met, complaint, rejected⟩ := blames noLiteral
  rw [evaluated] at rejected
  injection rejected with rejected
  injection rejected with rejected
  injection rejected with kind reasons line column
  refine ⟨noLiteral, before, demand, after, split, met, ?_, kind.symm, line.symm, column.symm⟩
  rw [complaint, reasons]

end Literal
end ComponentOutline
