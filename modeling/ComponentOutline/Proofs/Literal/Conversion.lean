import ComponentOutline.Proofs.Literal.Equations
import ComponentOutline.Proofs.Literal.Escapes
import ComponentOutline.Proofs.Literal.Numbers
import ComponentOutline.Proofs.Markup.Readable

/-!
# How evaluation fails

Evaluating a tree that can be read fails with a fault, or as the conversion of one of its
tokens does.  Which tokens of the grammar are not converted is known from their texts.
-/

namespace ComponentOutline

/-! ## Allowed failures -/

/-- Whenever a computation fails, its failure is allowed. -/
def FailsOnly {α : Type} (allowed : Failure → Prop) (result : Except Failure α) : Prop :=
  ∀ failure, result = .error failure → allowed failure

namespace FailsOnly

variable {α β : Type} {allowed : Failure → Prop}

theorem of_ok (value : α) : FailsOnly allowed (.ok value) :=
  nofun

theorem of_error {failure : Failure} (isAllowed : allowed failure) :
    FailsOnly (α := α) allowed (.error failure) := by
  rintro _ ⟨⟩
  exact isAllowed

/-- A sequence fails only in allowed ways if each of its steps does. -/
theorem bind
    {result : Except Failure α}
    {next : α → Except Failure β}
    (first : FailsOnly allowed result)
    (second : ∀ value, result = .ok value → FailsOnly allowed (next value)) :
    FailsOnly allowed (result >>= next) := by
  cases result with
  | ok value => exact second value rfl
  | error failure => exact of_error (first failure rfl)

theorem map
    {result : Except Failure α}
    (fails : FailsOnly allowed result)
    (function : α → β) :
    FailsOnly allowed (result.map function) := by
  cases result with
  | ok value => exact of_ok _
  | error failure => exact of_error (fails failure rfl)

theorem mapM
    {items : List α}
    {step : α → Except Failure β}
    (each : ∀ item ∈ items, FailsOnly allowed (step item)) :
    FailsOnly allowed (items.mapM step) := by
  induction items with
  | nil => exact of_ok []
  | cons item rest inductionHypothesis =>
      obtain ⟨first, others⟩ := List.forall_mem_cons.mp each
      rw [List.mapM_cons]
      apply first.bind
      intro value _
      apply (inductionHypothesis others).bind
      intro values _
      exact of_ok _

theorem foldlM
    {items : List α}
    {step : β → α → Except Failure β}
    (each : ∀ item ∈ items, ∀ value, FailsOnly allowed (step value item))
    (value : β) :
    FailsOnly allowed (items.foldlM step value) := by
  induction items generalizing value with
  | nil => exact of_ok value
  | cons item rest inductionHypothesis =>
      obtain ⟨first, others⟩ := List.forall_mem_cons.mp each
      rw [List.foldlM_cons]
      apply (first value).bind
      intro later _
      exact inductionHypothesis others later

end FailsOnly

/-! ## Evaluation -/

/-- How the text of a single token fails to be converted: that of an escape, of a number,
and of a number under a key. -/
inductive Node.FailsToConvert (node : Node) (failure : Failure) : Prop
  | escape
      (kind : node.kind = "escape_sequence")
      (failed : Literal.decodePart node = .error failure)
  | number
      (kind : node.kind = "number")
      (failed : Literal.evaluate node = .error failure)
  | key
      (kind : node.kind = "number")
      (under : node.label.field = some "key")
      (failed : Literal.propertyKey node = .error failure)

/-- A tree can be read, and the allowed failures are all faults and those that the tokens
of the tree have. -/
structure Covers (allowed : Failure → Prop) (root : Node) : Prop where
  faults : ∀ fault, allowed (.fault fault)
  readable : root.IsReadable
  tokens : root.Everywhere fun node => ∀ failure, node.FailsToConvert failure → allowed failure

namespace Covers

open Literal

variable {allowed : Failure → Prop} {root node : Node}

/-- What covers a tree covers what stands in it. -/
theorem inside
    (covers : Covers allowed root)
    (inherits : ∀ holds, root.Everywhere holds → node.Everywhere holds) :
    Covers allowed node :=
  ⟨covers.faults, inherits _ covers.readable, inherits _ covers.tokens⟩

theorem reject
    {α : Type}
    (covers : Covers allowed root)
    (node : Node)
    (reason : String) :
    FailsOnly (α := α) allowed (.error (node.reject reason)) :=
  .of_error (covers.faults _)

theorem readText (covers : Covers allowed root) : FailsOnly allowed root.readText := by
  obtain ⟨text, read⟩ := covers.readable.readText
  rw [read]
  exact .of_ok text

/-- A part of a string fails on its text or on a code point that cannot be converted. -/
theorem decodePart (covers : Covers allowed root) :
    FailsOnly allowed (decodePart root) := by
  by_cases kind : root.kind = "escape_sequence"
  · intro failure failed
    exact covers.tokens.here failure (.escape kind failed)
  · unfold Literal.decodePart
    rw [if_neg (by simpa using kind)]
    split
    · exact covers.readText.bind fun fragment _ => .of_ok _
    · split
      · exact covers.reject root _
      · exact .of_ok []

theorem decodeString (covers : Covers allowed root) :
    FailsOnly allowed (decodeString root) := by
  have parts : ∀ nodes : List Node, (∀ part ∈ nodes, Covers allowed part) →
      FailsOnly allowed (decodeParts nodes) := by
    intro nodes each
    induction nodes with
    | nil => exact .of_ok []
    | cons part rest inductionHypothesis =>
        obtain ⟨first, others⟩ := List.forall_mem_cons.mp each
        rw [decodeParts]
        apply first.decodePart.bind
        intro front _
        apply (inductionHypothesis others).bind
        intro back _
        exact .of_ok _
  apply FailsOnly.map
  apply parts
  intro part isPart
  exact covers.inside fun _ everywhere => everywhere.of_mem_namedChildren isPart

/-- A key fails only as its parts or its numeral do. -/
theorem propertyKey
    {key : Node}
    (covers : Covers allowed root)
    (found : root.child? "key" = some key) :
    FailsOnly allowed (propertyKey key) := by
  have coversKey : Covers allowed key :=
    covers.inside fun _ everywhere => everywhere.of_child? found
  have under : key.label.field = some "key" := by
    simpa using List.find?_some found
  by_cases kind : key.kind = "number"
  · intro failure failed
    exact coversKey.tokens.here failure (.key kind under failed)
  · unfold Literal.propertyKey
    split
    · exact coversKey.readText.bind fun name _ => .of_ok _
    · split
      · exact coversKey.decodeString
      · rw [if_neg (by simpa using kind)]
        exact covers.reject key _

/-- Reading a sign fails by rejection or on the text of the operator. -/
theorem readSign (covers : Covers allowed root) : FailsOnly allowed (readSign root) := by
  unfold Literal.readSign
  simp only
  split
  · next operator argument held _ =>
      have coversOperator : Covers allowed operator :=
        covers.inside fun _ everywhere => everywhere.of_child? held
      apply coversOperator.readText.bind
      intro text _
      split
      · exact .of_ok _
      · exact covers.reject root _
  · exact covers.reject root _

/-- Applying a sign fails by rejection only. -/
theorem applySign
    (covers : Covers allowed root)
    (sign : Number → Number)
    (value : Value) :
    FailsOnly allowed (applySign root sign value) := by
  cases value with
  | number number => exact .of_ok _
  | _ => exact covers.reject root _

/-- An atom fails by rejection, or as its parts and its text do. -/
theorem evaluateAtom
    (covers : Covers allowed root)
    (kind : root.kind ≠ "number") :
    FailsOnly allowed (evaluateAtom root) := by
  unfold Literal.evaluateAtom
  split
  · exact covers.decodeString.map _
  · next isNumber => exact absurd isNumber kind
  · exact .of_ok _
  · exact .of_ok _
  · exact .of_ok _
  · exact .of_ok _
  · apply covers.readText.bind
    intro name _
    split
    · exact .of_ok _
    · exact covers.reject root _
  · exact covers.reject root _
  · exact covers.reject root _

theorem evaluateOr
    {child? : Option Node}
    (covers : Covers allowed root)
    (reason : String)
    (present : ∀ child, child? = some child → FailsOnly allowed (evaluate child)) :
    FailsOnly allowed (evaluateOr (root.reject reason) child?) := by
  cases child? with
  | none => exact covers.reject root reason
  | some child => exact present child rfl

/-- If all parts of an expression fail in allowed ways only, then so does the expression. -/
theorem evaluate_of_below
    (covers : Covers allowed root)
    (members : ∀ child ∈ root.contents, ∀ entries, FailsOnly allowed (addMember entries child))
    (contents : ∀ child ∈ root.contents, FailsOnly allowed (evaluate child))
    (argument : ∀ child, root.child? "argument" = some child →
      FailsOnly allowed (evaluate child)) :
    FailsOnly allowed (evaluate root) := by
  by_cases kind : root.kind = "number"
  · intro failure failed
    exact covers.tokens.here failure (.number kind failed)
  · rw [evaluate_eq]
    split
    · exact (FailsOnly.foldlM members []).map _
    · split
      · exact (FailsOnly.mapM contents).map _
      · split
        · apply covers.readSign.bind
          intro sign _
          apply (covers.evaluateOr _ argument).bind
          intro value _
          exact covers.applySign sign value
        · split
          · apply covers.evaluateOr
            intro child isFirst
            exact contents child (List.mem_of_mem_head? isFirst)
          · exact covers.evaluateAtom kind

/-- If the value of a member fails in allowed ways only, then so does the member. -/
theorem addMember_of_below
    (covers : Covers allowed root)
    (value : ∀ child, root.child? "value" = some child → FailsOnly allowed (evaluate child))
    (entries : List (Text × Value)) :
    FailsOnly allowed (addMember entries root) := by
  unfold addMember
  split
  · exact covers.reject root _
  · split
    · next key child found held =>
        apply (value child held).bind
        intro evaluated _
        apply (covers.propertyKey found).bind
        intro name _
        exact .of_ok _
    · exact covers.reject root _

/-- Expressions and members fail only as allowed.  They go together in the induction,
because a member holds its value one level further down than an item. -/
theorem evaluate_and_addMember (node : Node) :
    Covers allowed node →
      FailsOnly allowed (evaluate node) ∧
        ∀ entries, FailsOnly allowed (addMember entries node) := by
  induction node using Node.induction with
  | step label children inductionHypothesis =>
      intro covers
      have below : ∀ child ∈ children,
          FailsOnly allowed (evaluate child) ∧
            ∀ entries, FailsOnly allowed (addMember entries child) := by
        intro child isChild
        exact inductionHypothesis child isChild
          (covers.inside fun _ everywhere => everywhere.of_mem_children isChild)
      have content : ∀ child ∈ (Node.mk label children).contents, child ∈ children := by
        intro child isContent
        exact Node.mem_children_of_mem_contents isContent
      have field : ∀ name child, (Node.mk label children).child? name = some child →
          FailsOnly allowed (evaluate child) := by
        intro name child found
        exact (below child (List.mem_of_find?_eq_some found)).1
      constructor
      · apply covers.evaluate_of_below
        · intro child isContent
          exact (below child (content child isContent)).2
        · intro child isContent
          exact (below child (content child isContent)).1
        · exact field "argument"
      · exact covers.addMember_of_below (field "value")

/-- An expression fails in ways that its tree allows, by induction over the tree. -/
theorem evaluate (covers : Covers allowed root) : FailsOnly allowed (evaluate root) :=
  (evaluate_and_addMember root covers).1

theorem unwrap (node : Node) : Covers allowed node → Covers allowed (unwrap node) := by
  induction node using Node.induction with
  | step label children inductionHypothesis =>
      intro covers
      rw [unwrap_eq]
      split
      · cases found : (Node.mk label children).namedChildren.head? with
        | none => exact covers
        | some child =>
            have isChild : child ∈ children :=
              (List.mem_filter.mp (List.mem_of_mem_head? found)).1
            exact inductionHypothesis child isChild
              (covers.inside fun _ everywhere => everywhere.of_mem_children isChild)
      · exact covers

theorem componentState (covers : Covers allowed root) :
    FailsOnly allowed (componentState root) := by
  apply FailsOnly.map
  have unwrapped := unwrap root covers
  rw [stateEntries_eq]
  split
  · apply FailsOnly.foldlM
    intro member isMember
    exact (evaluate_and_addMember member
      (unwrapped.inside fun _ everywhere => everywhere.of_mem_contents isMember)).2
  · exact unwrapped.reject _ _

end Covers

/-! ## Tokens of the grammar -/

namespace Node

open Literal

/-- The text of a node is that of a token of the grammar, if it is a number or an
escape. -/
structure HasToken (node : Node) : Prop where
  escape : node.kind = "escape_sequence" →
    ∀ sequence, node.readText = .ok sequence → IsEscape sequence.toList
  number : node.kind = "number" →
    ∀ text, node.readText = .ok text → IsNumber text.toList

/-- A token is not converted: an escape beyond the last code point, an unreadable number,
and an overlong number under a key. -/
inductive IsInconvertible (node : Node) : Prop
  | escape {sequence : String}
      (kind : node.kind = "escape_sequence")
      (read : node.readText = .ok sequence)
      (beyond : isBeyondLast sequence.toList = true)
  | number {text : String}
      (kind : node.kind = "number")
      (read : node.readText = .ok text)
      (unreadable : isUnreadable text = true)
  | key {text : String}
      (kind : node.kind = "number")
      (under : node.label.field = some "key")
      (read : node.readText = .ok text)
      (overlong : isOverlong text = true)

variable {node : Node} {text : String}

/-- Where a condition tells whether a conversion succeeds, it tells whether it fails. -/
theorem convert_error_iff
    {α : Type}
    {result : Except ConversionFault α}
    {condition : Bool}
    (succeeds : (∃ value, result = .ok value) ↔ condition = false) :
    condition = true ↔ ∃ cause, result = .error cause := by
  cases result with
  | ok value =>
      refine iff_of_false ?_ nofun
      rw [succeeds.mp ⟨value, rfl⟩]
      exact Bool.false_ne_true
  | error cause =>
      refine iff_of_true ?_ ⟨cause, rfl⟩
      rw [← Bool.not_eq_false, ← succeeds]
      exact nofun

theorem convert_error
    {α : Type}
    {result : Except ConversionFault α}
    {failure : Failure}
    (failed : result.mapError .conversion = .error failure) :
    ∃ cause, result = .error cause := by
  cases result with
  | ok value => cases failed
  | error cause => exact ⟨cause, rfl⟩

/-- A token that fails to be converted is one of those that are known for it. -/
theorem FailsToConvert.isInconvertible
    {failure : Failure}
    (fails : node.FailsToConvert failure)
    (read : node.readText = .ok text)
    (token : node.HasToken) :
    node.IsInconvertible := by
  cases fails with
  | escape kind failed =>
      rw [decodePart_of_escape kind read] at failed
      have decodes := decodeEscape_ok_iff (token.escape kind text read)
      exact .escape kind read ((convert_error_iff decodes).mpr (convert_error failed))
  | number kind failed =>
      rw [evaluate_of_number kind read] at failed
      have reads := readNumber_ok_iff (token.number kind text read)
      refine .number kind read ((convert_error_iff reads).mpr ?_)
      cases found : readNumber text with
      | error cause => exact ⟨cause, rfl⟩
      | ok number =>
          rw [found] at failed
          cases failed
  | key kind under failed =>
      rw [propertyKey_of_number kind read] at failed
      cases found : readNumber text with
      | error cause =>
          have reads := readNumber_ok_iff (token.number kind text read)
          exact .number kind read ((convert_error_iff reads).mpr ⟨cause, found⟩)
      | ok number =>
          rw [found] at failed
          have writes := numberKey_ok_iff found
          exact .key kind under read ((convert_error_iff writes).mpr (convert_error failed))

/-- An inconvertible token does fail to be converted. -/
theorem IsInconvertible.fails
    (inconvertible : node.IsInconvertible)
    (token : node.HasToken) :
    ∃ failure, node.FailsToConvert failure := by
  cases inconvertible with
  | @escape sequence kind read beyond =>
      have decodes := decodeEscape_ok_iff (token.escape kind sequence read)
      obtain ⟨cause, undecoded⟩ := (convert_error_iff decodes).mp beyond
      refine ⟨.conversion cause, .escape kind ?_⟩
      rw [decodePart_of_escape kind read, undecoded]
      rfl
  | @number text kind read unreadable =>
      have reads := readNumber_ok_iff (token.number kind text read)
      obtain ⟨cause, unread⟩ := (convert_error_iff reads).mp unreadable
      refine ⟨.conversion cause, .number kind ?_⟩
      rw [evaluate_of_number kind read, unread]
      rfl
  | @key text kind under read overlong =>
      cases found : readNumber text with
      | error cause =>
          rw [isOverlong, found] at overlong
          cases overlong
      | ok number =>
          obtain ⟨cause, unwritten⟩ :=
            (convert_error_iff (numberKey_ok_iff found)).mp overlong
          refine ⟨.conversion cause, .key kind under ?_⟩
          rw [propertyKey_of_number kind read, found]
          change (numberKey number).mapError Failure.conversion = _
          rw [unwritten]
          rfl

end Node
end ComponentOutline
