import ComponentOutline.Component.Extract
import ComponentOutline.Proofs.Component.Class

/-!
# Detected classes and recognized classes

A statement that declares a class makes the class pattern the detected one, also if the
class is abstract.  The search by that pattern looks at declared classes and at class
expressions, but it passes through abstract classes.  So a program whose statements declare
a component class is searched in vain exactly if all the component classes that the search
comes across are abstract.
-/

namespace ComponentOutline

namespace Class

/-- A program is no barrier. -/
theorem isBarrier_program
    {root : Node}
    (isProgram : root.kind = "program") :
    isBarrier root = false := by
  simp [isBarrier, isClass, Markup.isElement, Markup.isSelfClosing, isProgram]

/-- A search that returns has recognized a component exactly if it came across a component
class. -/
theorem nameFound_iff
    {options : ClassOptions}
    {root : Node}
    {log : Log}
    {progress : Progress}
    (extracted : extract options root (.start log) = (.ok (), progress)) :
    progress.nameFound = true ↔
      ∃ place ∈ root.reached isBarrier, isComponentClass options.bases place.node = true := by
  obtain ⟨_, classes⟩ := extract_ok extracted
  have recorded : (recordedClass progress).isSome = progress.records.name.isSome := by
    rw [recordedClass, Option.isSome_map]
  have wins : FirstWins (fun place : Occurrence => isComponentClass options.bases place.node)
      readClass (root.reached isBarrier) none (recordedClass progress) := classes
  rw [Progress.nameFound_eq, ← recorded, wins.isSome_eq, Option.isSome_none, Bool.false_or,
    List.any_eq_true]

/-- A node is a class that extends a base component, be it abstract or not. -/
structure DeclaresComponent (options : ClassOptions) (node : Node) : Prop where
  isClass : node.isClassDeclaration = true ∨ isClass node = true
  isComponent : isComponent options node = .ok true

/-- The classes that are searched are those that are not abstract. -/
theorem isComponentClass_iff (options : ClassOptions) (node : Node) :
    isComponentClass options.bases node = true ↔
      DeclaresComponent options node ∧ node.kind ≠ "abstract_class_declaration" := by
  constructor
  · intro component
    cases searched : isClass node with
    | false =>
        rw [isComponentClass_eq_false searched] at component
        cases component
    | true =>
        refine ⟨⟨.inr searched, ?_⟩, ?_⟩
        · cases judged : isComponent options node with
          | ok recognized =>
              rw [isComponentClass_of_judged searched judged] at component
              rw [component]
          | error failure =>
              have judgedBy : isComponent ⟨options.bases⟩ node = .error failure := judged
              rw [isComponentClass, judgedBy, Bool.and_false] at component
              cases component
        · intro abstract
          rw [isClass_iff, abstract] at searched
          simp at searched
  · rintro ⟨declares, concrete⟩
    have searched : isClass node = true := by
      obtain declared | searched := declares.isClass
      · simp only [Node.isClassDeclaration, Bool.or_eq_true, beq_iff_eq] at declared
        exact (isClass_iff node).mpr (.inl (declared.resolve_right concrete))
      · exact searched
    exact isComponentClass_of_judged searched declares.isComponent

/-- All component classes that a search comes across are abstract. -/
def OnlyAbstract (options : ClassOptions) (root : Node) : Prop :=
  ∀ place ∈ root.reached isBarrier,
    DeclaresComponent options place.node → place.node.kind = "abstract_class_declaration"

/-- A component is found unless all component classes are abstract. -/
theorem nameFound_iff_not_onlyAbstract
    {options : ClassOptions}
    {root : Node}
    {log : Log}
    {progress : Progress}
    (extracted : extract options root (.start log) = (.ok (), progress)) :
    progress.nameFound = true ↔ ¬OnlyAbstract options root := by
  rw [nameFound_iff extracted]
  simp only [OnlyAbstract, isComponentClass_iff, Classical.not_forall, exists_prop, ne_eq]

/-- A search by the class pattern goes by the base components of the settings. -/
theorem search_eq_extract
    {settings : Settings}
    {options : ClassOptions}
    (given : ClassOptions.ofValue .null settings = .ok options)
    (root : Node)
    (log : Log) :
    Pattern.classDeclaration.search settings root (.start log) =
      extract options root (.start log) := by
  rw [Pattern.search, given, Effect.bind_apply_of_ok _ (Extracting.ofExcept_apply _ _)]

/-- If a statement of a program declares a component class, then the search by the class
pattern fails, or it recognizes a component unless all component classes that it comes
across are abstract. -/
theorem search_recognizes_declared_class_iff
    {settings : Settings}
    {options : ClassOptions}
    {root statement : Node}
    (given : ClassOptions.ofValue .null settings = .ok options)
    (isProgram : root.kind = "program")
    (isStatement : statement ∈ root.statements)
    (declared : statement.isClassDeclaration = true)
    (judged : isComponent options statement = .ok true)
    (log : Log) :
    (∃ failure progress,
      Pattern.classDeclaration.search settings root (.start log) =
        (.error failure, progress)) ∨
    ∃ progress,
      Pattern.classDeclaration.search settings root (.start log) = (.ok (), progress) ∧
        (progress.nameFound = true ↔ ¬OnlyAbstract options root) ∧
        (statement.kind = "class_declaration" → progress.nameFound = true) := by
  rw [search_eq_extract given]
  generalize extracted : extract options root (.start log) = outcome
  obtain ⟨result, progress⟩ := outcome
  cases result with
  | error failure => exact .inl ⟨failure, progress, rfl⟩
  | ok value =>
      have recognized := nameFound_iff_not_onlyAbstract extracted
      refine .inr ⟨progress, rfl, recognized, ?_⟩
      intro concrete
      rw [recognized]
      intro onlyAbstract
      have isPlace : ⟨[root], statement⟩ ∈ root.reached isBarrier :=
        Node.mem_reached_of_mem_namedChildren (isBarrier_program isProgram)
          (List.mem_filter.mp isStatement).1
      have abstract := onlyAbstract _ isPlace ⟨.inl declared, judged⟩
      rw [concrete] at abstract
      exact absurd abstract (by decide)

/-- The tree of `abstract class A extends Component {}`. -/
def abstractClass : Node :=
  .ofText "abstract_class_declaration" none "abstract class A extends Component \x7b\x7d" [
    .token "abstract",
    .token "class",
    .ofText "type_identifier" (some "name") "A" [],
    .ofText "class_heritage" none "extends Component" [
      .ofText "extends_clause" none "extends Component" [
        .token "extends",
        .ofText "identifier" (some "value") "Component" []]],
    .ofText "class_body" (some "body") "\x7b\x7d" [.token "\x7b", .token "\x7d"]]

/-- The tree of `class B extends Component {}`. -/
def concreteClass : Node :=
  .ofText "class_declaration" none "class B extends Component \x7b\x7d" [
    .token "class",
    .ofText "type_identifier" (some "name") "B" [],
    .ofText "class_heritage" none "extends Component" [
      .ofText "extends_clause" none "extends Component" [
        .token "extends",
        .ofText "identifier" (some "value") "Component" []]],
    .ofText "class_body" (some "body") "\x7b\x7d" [.token "\x7b", .token "\x7d"]]

/-- The base components of the settings from which every program starts. -/
def startOptions : ClassOptions :=
  ⟨[Text.ofString "Component", Text.ofString "PureComponent"]⟩

theorem ofValue_startOptions : ClassOptions.ofValue .null .default = .ok startOptions := rfl

/-- The tree of both classes. -/
def mixedProgram : Node :=
  .ofText "program" none
    "abstract class A extends Component \x7b\x7d class B extends Component \x7b\x7d"
    [abstractClass, concreteClass]

/-- Behind the abstract class the other one is recognized. -/
theorem search_recognizes_declared_class_iff_mixedProgram :
    concreteClass ∈ mixedProgram.statements ∧
      isComponent startOptions concreteClass = .ok true ∧
      ∃ progress,
        Pattern.classDeclaration.search .default mixedProgram (.start []) =
            (.ok (), progress) ∧
          progress.nameFound = true ∧ ¬OnlyAbstract startOptions mixedProgram := by
  have isStatement : concreteClass ∈ mixedProgram.statements :=
    List.mem_cons_of_mem abstractClass List.mem_cons_self
  have isProgram : mixedProgram.kind = "program" := rfl
  have returns : (extract startOptions mixedProgram (.start [])).1 = .ok () := by
    rw [extract, Extracting.extract, Walk.run_eq_visit]
    rfl
  refine ⟨isStatement, rfl, ?_⟩
  obtain ⟨failure, progress, failed⟩ | ⟨progress, searched, recognized, concrete⟩ :=
    search_recognizes_declared_class_iff ofValue_startOptions isProgram isStatement rfl rfl []
  · rw [search_eq_extract ofValue_startOptions] at failed
    rw [failed] at returns
    cases returns
  · exact ⟨progress, searched, concrete rfl, recognized.mp (concrete rfl)⟩

/-- The tree of the abstract class alone. -/
def abstractProgram : Node :=
  .ofText "program" none "abstract class A extends Component \x7b\x7d" [abstractClass]

/-- Not every component class that a statement declares is recognized: an abstract one is
passed over. -/
theorem not_forall_search_recognizes_declared_class :
    ¬∀ (settings : Settings) (options : ClassOptions) (root statement : Node) (log : Log)
        (progress : Progress),
      ClassOptions.ofValue .null settings = .ok options →
      root.kind = "program" →
      statement ∈ root.statements →
      statement.isClassDeclaration = true →
      isComponent options statement = .ok true →
      Pattern.classDeclaration.search settings root (.start log) = (.ok (), progress) →
      progress.nameFound = true := by
  intro always
  have isStatement : abstractClass ∈ abstractProgram.statements := List.mem_cons_self
  have searched :
      Pattern.classDeclaration.search .default abstractProgram (.start []) =
        (.ok (), (extract startOptions abstractProgram (.start [])).2) := by
    rw [search_eq_extract ofValue_startOptions, extract, Extracting.extract, Walk.run_eq_visit]
    rfl
  have overlooked : (extract startOptions abstractProgram (.start [])).2.nameFound = false := by
    rw [extract, Extracting.extract, Walk.run_eq_visit]
    rfl
  have recognized := always .default startOptions abstractProgram abstractClass [] _
    ofValue_startOptions rfl isStatement rfl rfl searched
  rw [overlooked] at recognized
  cases recognized

end Class
end ComponentOutline
