import ComponentOutline.Proofs.Markup.Readable
import ComponentOutline.Proofs.Parsing.Verdict
import ComponentOutline.Proofs.Syntax.Defect

/-!
# What a reader refuses

Whether a source is read is decided by its tree alone.  A strict reader refuses a tree with a
defect and names the first one in pre-order, with its place and the start of its text.  A
reader that does not refuse a tree for a defect refuses it if it has no statement, and reads
it otherwise.
-/

namespace ComponentOutline

/-- What becomes of the tree of a source.  The outcomes exclude each other, and one of them
comes about whenever the texts of the tree can be read. -/
inductive Node.IsJudged (strict : Bool) (grammar : Dialect) (root : Node) :
    Except Failure Node → Prop
  /-- The first defect is named by its line, counted from 1, its column and the first 80
  characters of its text. -/
  | refused {defect : Node} {text : String}
      (isStrict : strict = true)
      (first : root.IsFirstDefect defect)
      (read : defect.text = .ok text) :
      IsJudged strict grammar root
        (.error (.fault (.invalidSyntax grammar.name (some (String.ofList (text.toList.take 80)))
          (defect.label.row + 1) defect.label.column)))
  | withoutStatement
      (passed : strict = true → ∀ node ∈ root.preorder, node.isDefect = false)
      (noStatement : ∀ child ∈ root.namedChildren,
        child.kind = "comment" ∨ child.kind = "hash_bang_line") :
      IsJudged strict grammar root (.error (.fault .emptyProgram))
  | accepted
      (passed : strict = true → ∀ node ∈ root.preorder, node.isDefect = false)
      (statement : ∃ child ∈ root.namedChildren,
        child.kind ≠ "comment" ∧ child.kind ≠ "hash_bang_line") :
      IsJudged strict grammar root (.ok root)

namespace Node

variable {strict : Bool} {grammar : Dialect} {root : Node}

/-- A program without statements holds nothing but comments and the line for its interpreter. -/
theorem statements_isEmpty_iff (root : Node) :
    root.statements.isEmpty = true ↔
      ∀ child ∈ root.namedChildren, child.kind = "comment" ∨ child.kind = "hash_bang_line" := by
  rw [List.isEmpty_iff, statements, List.filter_eq_nil_iff]
  simp only [Bool.not_eq_true', Bool.not_eq_false, Bool.or_eq_true, beq_iff_eq]

/-- A tree with a first defect has a defect. -/
theorem IsFirstDefect.hasDefect
    {defect : Node}
    (first : root.IsFirstDefect defect) :
    root.hasDefect = true := by
  rw [hasDefect_eq_any, List.any_eq_true]
  exact ⟨defect, first.mem_preorder, first.1⟩

/-- A tree with a defect has a first one. -/
theorem exists_isFirstDefect (defective : root.hasDefect = true) :
    ∃ defect, root.IsFirstDefect defect := by
  cases found : root.firstDefect? with
  | some defect => exact ⟨defect, firstDefect?_eq_some_iff.mp found⟩
  | none =>
      rw [firstDefect?_eq_none_iff, ← hasDefect_eq_false_iff, defective] at found
      cases found

/-- A reader passes a tree if it is not strict or finds no defect. -/
theorem passed_iff :
    ¬ (strict && root.hasDefect) = true ↔
      (strict = true → ∀ node ∈ root.preorder, node.isDefect = false) := by
  rw [← hasDefect_eq_false_iff, Bool.and_eq_true, not_and, Bool.not_eq_true]

/-- The failure of a tree names its first defect. -/
theorem refusal_eq
    {defect : Node}
    {text : String}
    (first : root.IsFirstDefect defect)
    (read : defect.text = .ok text) :
    Reading.refusal grammar root =
      .fault (.invalidSyntax grammar.name (some (String.ofList (text.toList.take 80)))
        (defect.label.row + 1) defect.label.column) := by
  unfold Reading.refusal
  rw [firstDefect?_eq_some_iff.mpr first]
  simp only [readText_eq_ok_iff.mpr read]
  rfl

/-- Every tree that can be read is judged. -/
theorem isJudged_verdict (readable : root.IsReadable) :
    root.IsJudged strict grammar (Reading.verdict strict grammar root) := by
  unfold Reading.verdict
  split
  · next refuses =>
      obtain ⟨isStrict, defective⟩ := Bool.and_eq_true_iff.mp refuses
      obtain ⟨defect, first⟩ := exists_isFirstDefect defective
      obtain ⟨text, read⟩ := readable defect first.mem_preorder
      rw [refusal_eq first read]
      exact .refused isStrict first read
  · next passes =>
      split
      · next noStatement =>
          exact .withoutStatement (passed_iff.mp passes)
            ((statements_isEmpty_iff root).mp noStatement)
      · next someStatement =>
          refine .accepted (passed_iff.mp passes) ?_
          rw [statements_isEmpty_iff] at someStatement
          simpa only [Classical.not_forall, not_or, exists_prop] using someStatement

/-- A tree is judged in no other way. -/
theorem IsJudged.verdict_eq
    {outcome : Except Failure Node}
    (judged : root.IsJudged strict grammar outcome) :
    Reading.verdict strict grammar root = outcome := by
  unfold Reading.verdict
  cases judged with
  | refused isStrict first read =>
      rw [if_pos (Bool.and_eq_true_iff.mpr ⟨isStrict, first.hasDefect⟩), refusal_eq first read]
  | withoutStatement passed noStatement =>
      rw [if_neg (passed_iff.mpr passed), if_pos ((statements_isEmpty_iff root).mpr noStatement)]
  | accepted passed statement =>
      obtain ⟨child, isChild, noComment, noHashBang⟩ := statement
      rw [if_neg (passed_iff.mpr passed), if_neg]
      rw [statements_isEmpty_iff]
      intro noStatement
      exact (noStatement child isChild).elim noComment noHashBang

end Node

namespace Reading

theorem sourceText_string (code : String) : sourceText (.string code) = .ok code := by
  simp only [sourceText, Value.string, Text.toString?_ofString]

/-- The search finds the first defect of every tree, and what a reader gives for a source is
what its tree is judged to be: the tree that the reader has for it in its cache, or else the
one of the grammar. -/
theorem parse_names_first_defect
    {grammars : Grammars}
    {reader : Reader}
    {markup : Value}
    {code : String}
    (readable :
      (reader.treeOf grammars (reader.dialect.grammar markup) code).IsReadable)
    (log : Log) :
    (∀ start defect : Node, start.firstDefect? = some defect ↔ start.IsFirstDefect defect) ∧
      (∀ start : Node,
        start.firstDefect? = none ↔ ∀ node ∈ start.preorder, node.isDefect = false) ∧
      ∀ outcome, (parse grammars (.string code) markup (reader, log)).1 = outcome ↔
        (reader.treeOf grammars (reader.dialect.grammar markup) code).IsJudged
          reader.strict.isTruthy (reader.dialect.grammar markup) outcome := by
  refine ⟨fun _ _ => Node.firstDefect?_eq_some_iff, fun _ => Node.firstDefect?_eq_none_iff, ?_⟩
  intro outcome
  obtain ⟨later, parsed⟩ :=
    parse_apply_of_ok (sourceText_string code) grammars markup reader log
  rw [parsed]
  constructor
  · rintro rfl
    exact Node.isJudged_verdict readable
  · intro judged
    exact judged.verdict_eq

/-- A closing token that is missing behind the third column. -/
def missingToken : Node :=
  .mk { (Node.token ")").label with missing := true, column := 3, bytes := [] } []

/-- The tree of `a(b ]`: the arguments are not closed, and a stray token stands in an error
behind them. -/
def unclosedTree : Node :=
  .ofText "program" none "a(b ]" [
    .ofText "expression_statement" none "a(b" [
      .ofText "call_expression" none "a(b" [
        .ofText "identifier" (some "function") "a" [],
        .ofText "arguments" (some "arguments") "(b" [
          .token "(",
          .inLine 2 true "identifier" none "b" [],
          missingToken]]],
    .inLine 4 true "ERROR" none "]" [.token "]"]]

theorem isFirstDefect_unclosedTree : unclosedTree.IsFirstDefect missingToken := by
  refine ⟨rfl, unclosedTree.preorder.take 7, unclosedTree.preorder.drop 8, rfl, ?_⟩
  decide

/-- A new reader for trees that are handed to it. -/
def newReader (strict : Bool) : Reader :=
  ⟨.tsx, .bool strict, [], .empty (some 128)⟩

/-- A missing token is refused with its position if the reader is strict, and passed over if not. -/
theorem parse_names_first_defect_unclosedTree :
    (parse (fun _ _ => unclosedTree) (.string "a(b ]") .null (newReader true, [])).1 =
        .error (.fault (.invalidSyntax "tsx" (some "") 1 3)) ∧
      (parse (fun _ _ => unclosedTree) (.string "a(b ]") .null (newReader false, [])).1 =
        .ok unclosedTree := by
  have readable : unclosedTree.IsReadable := by decide +kernel
  have strictly := @parse_names_first_defect (fun _ _ => unclosedTree) (newReader true) .null
    "a(b ]" readable []
  have leniently := @parse_names_first_defect (fun _ _ => unclosedTree) (newReader false) .null
    "a(b ]" readable []
  refine ⟨?_, ?_⟩
  · rw [strictly.2.2]
    exact .refused rfl isFirstDefect_unclosedTree rfl
  · rw [leniently.2.2]
    exact .accepted nofun ⟨_, List.mem_cons_self, by decide, by decide⟩

end Reading
end ComponentOutline
