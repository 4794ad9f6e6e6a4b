import ComponentOutline.Parsing.Reader
import ComponentOutline.Proofs.Component.Class
import ComponentOutline.Proofs.Component.Factory

/-!
# Which component is returned

Without a pattern the detected pattern is searched first, and the other one if the
outline of the first has no name.  An outline without a name is that of an anonymous
component or of none, and the two are not told apart: an anonymous component that only
the other pattern recognizes is lost.  Every other component that is recognized by
either pattern is returned.
-/

namespace ComponentOutline

namespace Pattern

/-- A search ends alike and finds the same after any earlier records. -/
theorem search_start
    (settings : Settings)
    (root : Node)
    (pattern : Pattern)
    (log : Log) :
    (pattern.search settings root (.start log)).1 =
        (pattern.search settings root (.start [])).1 ∧
      (pattern.search settings root (.start log)).2.findings =
        (pattern.search settings root (.start [])).2.findings := by
  cases pattern with
  | factoryCall =>
      rw [search, Effect.bind_apply, Effect.bind_apply, Extracting.ofExcept_apply,
        Extracting.ofExcept_apply]
      cases FactoryOptions.ofValues .null .null settings with
      | error failure => exact ⟨rfl, rfl⟩
      | ok options =>
          exact Surveys.extract_start (Factory.surveys options) rfl trivial .factoryCall
            root log
  | classDeclaration =>
      rw [search, Effect.bind_apply, Effect.bind_apply, Extracting.ofExcept_apply,
        Extracting.ofExcept_apply]
      cases ClassOptions.ofValue .null settings with
      | error failure => exact ⟨rfl, rfl⟩
      | ok options =>
          exact Surveys.extract_start (Class.surveys options) rfl (Class.isOutside_start [])
            .classDeclaration root log

/-- A search that returns has put together a consistent outline. -/
theorem consistent_of_search
    {settings : Settings}
    {root : Node}
    {pattern : Pattern}
    {log : Log}
    {progress : Progress}
    (searched : pattern.search settings root (.start log) = (.ok (), progress)) :
    progress.Consistent := by
  cases pattern with
  | factoryCall =>
      obtain ⟨options, _, evaluated, extracted⟩ := Effect.ok_of_bind_apply searched
      obtain ⟨_, rfl⟩ := Prod.mk.inj evaluated
      exact (Factory.extract_ok extracted).1
  | classDeclaration =>
      obtain ⟨options, _, evaluated, extracted⟩ := Effect.ok_of_bind_apply searched
      obtain ⟨_, rfl⟩ := Prod.mk.inj evaluated
      exact (Class.extract_ok extracted).1.consistent

/-- There is no third pattern. -/
theorem eq_or_eq_other (pattern detected : Pattern) :
    pattern = detected ∨ pattern = detected.other := by
  cases pattern <;> cases detected <;> simp [other]

end Pattern

/-- A component that was not recognized has no name. -/
theorem Progress.Consistent.name_of_unrecognized
    {progress : Progress}
    (consistent : progress.Consistent)
    (unrecognized : progress.nameFound = false) :
    progress.descriptor.name = "" := by
  rw [consistent.descriptor_eq]
  simp [Records.descriptor, Descriptor.name, Progress.records, unrecognized]

/-- A component with a name was recognized. -/
theorem Progress.Consistent.recognized_of_name
    {progress : Progress}
    (consistent : progress.Consistent)
    (named : progress.descriptor.name ≠ "") :
    progress.nameFound = true := by
  cases found : progress.nameFound with
  | true => rfl
  | false => exact absurd (consistent.name_of_unrecognized found) named

namespace Extraction

/-- A search that returns gives its outline. -/
theorem byPattern_ok
    {settings : Settings}
    {root : Node}
    {pattern : Pattern}
    {progress : Progress}
    (searched : pattern.search settings root (.start []) = (.ok (), progress))
    (log : Log) :
    ∃ after, byPattern settings pattern root log = (.ok progress.descriptor, after) := by
  obtain ⟨result, findings⟩ := Pattern.search_start settings root pattern log
  rw [searched] at result findings
  generalize ended : pattern.search settings root (.start log) = outcome at result findings
  obtain ⟨_, later⟩ := outcome
  cases result
  have sameOutline : later.descriptor = progress.descriptor := (Prod.mk.inj findings).1
  have outlined :
      outline (pattern.search settings root) log = (.ok progress.descriptor, later.log) := by
    rw [outline, ended, ← sameOutline]
    rfl
  exact ⟨later.log, Effect.tryCatch_apply_of_ok _ outlined⟩

/-- The outline that is chosen of those that the patterns give. -/
def chosen (found : Pattern → Progress) (detected : Pattern) : Descriptor :=
  if (found detected).descriptor.name != "" then (found detected).descriptor
  else if (found detected.other).descriptor.name != "" then
    (found detected.other).descriptor
  else (found detected).descriptor

/-- If both searches return, one of their outlines is chosen. -/
theorem byEither_ok
    {settings : Settings}
    {root : Node}
    {found : Pattern → Progress}
    (searched : ∀ pattern : Pattern,
      pattern.search settings root (.start []) = (.ok (), found pattern))
    (log : Log) :
    ∃ after,
      byEither settings root log = (.ok (chosen found root.detectPattern), after) := by
  obtain ⟨between, first⟩ := byPattern_ok (searched root.detectPattern) log
  unfold byEither chosen
  rw [Effect.bind_apply_of_ok _ first]
  split
  · exact ⟨between, rfl⟩
  · obtain ⟨after, second⟩ := byPattern_ok (searched root.detectPattern.other)
      (between ++ [fallbackRecord root.detectPattern])
    have wrote : Logged.write (fallbackRecord root.detectPattern) between =
        (.ok (), between ++ [fallbackRecord root.detectPattern]) := rfl
    refine ⟨after, ?_⟩
    rw [Effect.bind_apply_of_ok _ wrote, Effect.bind_apply_of_ok _ second]
    rfl

end Extraction

namespace Reading

/-- If a source is read and both searches return, one of their outlines is returned. -/
theorem extract_ok
    {grammars : Grammars}
    {settings : Settings}
    {code : Value}
    {state between : Reader × Log}
    {root : Node}
    {found : Pattern → Progress}
    (parsed : parse grammars code .null state = (.ok root, between))
    (searched : ∀ pattern : Pattern,
      pattern.search settings root (.start []) = (.ok (), found pattern)) :
    ∃ after,
      extract grammars settings code .null state =
        (.ok (Extraction.chosen found root.detectPattern), after) := by
  obtain ⟨log, extracted⟩ := Extraction.byEither_ok searched between.2
  refine ⟨(between.1, log), ?_⟩
  unfold extract
  rw [Effect.bind_apply_of_ok _ parsed]
  simp only [ofLogged, extracted]

end Reading

namespace Extraction

/-- An outline is that of a component which was recognized. -/
def IsRecognized (found : Pattern → Progress) (descriptor : Descriptor) : Prop :=
  ∃ pattern,
    (found pattern).nameFound = true ∧ descriptor = (found pattern).descriptor

/-- The detected pattern recognizes no component, and the other one an anonymous
component with another outline. -/
structure IsLost (found : Pattern → Progress) (detected : Pattern) : Prop where
  unrecognized : (found detected).nameFound = false
  anonymous : (found detected.other).descriptor.name = ""
  differs : (found detected.other).descriptor ≠ (found detected).descriptor

/-- A component that is recognized by either pattern is chosen unless it is lost. -/
theorem isRecognized_chosen_iff
    {found : Pattern → Progress}
    {detected : Pattern}
    (consistent : ∀ pattern, (found pattern).Consistent)
    (recognized : ∃ pattern, (found pattern).nameFound = true) :
    IsRecognized found (chosen found detected) ↔ ¬IsLost found detected := by
  constructor
  · rintro ⟨pattern, isFound, kept⟩ lost
    have unnamed := (consistent detected).name_of_unrecognized lost.unrecognized
    have fallsBack : chosen found detected = (found detected).descriptor := by
      simp [chosen, unnamed, lost.anonymous]
    obtain rfl | rfl := Pattern.eq_or_eq_other pattern detected
    · rw [lost.unrecognized] at isFound
      cases isFound
    · exact lost.differs (kept.symm.trans fallsBack)
  · intro kept
    by_cases unnamed : (found detected).descriptor.name = ""
    · by_cases anonymous : (found detected.other).descriptor.name = ""
      · have fallsBack : chosen found detected = (found detected).descriptor := by
          simp [chosen, unnamed, anonymous]
        cases isFound : (found detected).nameFound with
        | true => exact ⟨detected, isFound, fallsBack⟩
        | false =>
            have same : (found detected.other).descriptor = (found detected).descriptor := by
              apply Classical.byContradiction
              intro differs
              exact kept ⟨isFound, anonymous, differs⟩
            obtain ⟨pattern, isRecognized⟩ := recognized
            obtain rfl | rfl := Pattern.eq_or_eq_other pattern detected
            · rw [isFound] at isRecognized
              cases isRecognized
            · exact ⟨detected.other, isRecognized, fallsBack.trans same.symm⟩
      · have isOther : chosen found detected = (found detected.other).descriptor := by
          simp [chosen, unnamed, anonymous]
        exact ⟨detected.other, (consistent _).recognized_of_name anonymous, isOther⟩
    · have isDetected : chosen found detected = (found detected).descriptor := by
        simp [chosen, unnamed]
      exact ⟨detected, (consistent _).recognized_of_name unnamed, isDetected⟩

end Extraction

namespace Reading

/-- If a source is read, both searches return and either recognizes a component, then the
outline of one is returned that was recognized, unless the detected pattern recognizes
none and the other an anonymous one with another outline. -/
theorem extract_returns_recognized_iff
    {grammars : Grammars}
    {settings : Settings}
    {code : Value}
    {state between : Reader × Log}
    {root : Node}
    {found : Pattern → Progress}
    (parsed : parse grammars code .null state = (.ok root, between))
    (searched : ∀ pattern : Pattern,
      pattern.search settings root (.start []) = (.ok (), found pattern))
    (recognized : ∃ pattern, (found pattern).nameFound = true) :
    ∃ descriptor after,
      extract grammars settings code .null state = (.ok descriptor, after) ∧
        (Extraction.IsRecognized found descriptor ↔
          ¬Extraction.IsLost found root.detectPattern) := by
  have consistent : ∀ pattern, (found pattern).Consistent := by
    intro pattern
    exact Pattern.consistent_of_search (searched pattern)
  obtain ⟨after, extracted⟩ := extract_ok parsed searched
  exact ⟨_, after, extracted, Extraction.isRecognized_chosen_iff consistent recognized⟩

/-- The tree of `export default React.createClass({getInitialState() {return {d: 1};}});`,
whose component is anonymous. -/
def sampleTree : Node :=
  .ofText "program" none
    "export default React.createClass({getInitialState() {return {d: 1};}});" [
    .ofText "export_statement" none
      "export default React.createClass({getInitialState() {return {d: 1};}});" [
      .token "export",
      .token "default",
      .ofText "call_expression" (some "value")
        "React.createClass({getInitialState() {return {d: 1};}})" [
        .ofText "member_expression" (some "function") "React.createClass" [
          .ofText "identifier" (some "object") "React" [],
          .token ".",
          .ofText "property_identifier" (some "property") "createClass" []],
        .ofText "arguments" (some "arguments")
          "({getInitialState() {return {d: 1};}})" [
          .ofText "object" none "{getInitialState() {return {d: 1};}}" [
            .ofText "method_definition" none "getInitialState() {return {d: 1};}" [
              .ofText "property_identifier" (some "name") "getInitialState" [],
              .ofText "formal_parameters" (some "parameters") "()" [],
              .ofText "statement_block" (some "body") "{return {d: 1};}" [
                .ofText "return_statement" none "return {d: 1};" [
                  .token "return",
                  .ofText "object" none "{d: 1}" [
                    .ofText "pair" none "d: 1" [
                      .ofText "property_identifier" (some "key") "d" [],
                      .token ":",
                      .ofText "number" (some "value") "1" []]],
                  .token ";"]]]]]],
      .token ";"]]

/-- What the patterns find in the tree. -/
def sampleFound (pattern : Pattern) : Progress :=
  (pattern.search .default sampleTree (.start [])).2

/-- The factory pattern finds an anonymous component with a state. -/
theorem search_sampleTree_factoryCall :
    (Pattern.factoryCall.search .default sampleTree (.start [])).1 = .ok () ∧
      (sampleFound .factoryCall).nameFound = true ∧
      (sampleFound .factoryCall).descriptor =
        .mk "" [⟨Text.ofString "d", .int 1⟩] [] [] := by
  have given :
      FactoryOptions.ofValues .null .null .default =
        .ok ⟨[Text.ofString "createClass", Text.ofString "createReactClass"],
          .string "getInitialState"⟩ := rfl
  rw [sampleFound, Pattern.search, given]
  rw [Effect.bind_apply_of_ok _ (Extracting.ofExcept_apply _ _), Factory.extract,
    Extracting.extract, Walk.run_eq_visit]
  exact ⟨rfl, rfl, rfl⟩

/-- The class pattern finds nothing. -/
theorem search_sampleTree_classDeclaration :
    (Pattern.classDeclaration.search .default sampleTree (.start [])).1 = .ok () ∧
      (sampleFound .classDeclaration).nameFound = false ∧
      (sampleFound .classDeclaration).descriptor = .empty := by
  have given :
      ClassOptions.ofValue .null .default =
        .ok ⟨[Text.ofString "Component", Text.ofString "PureComponent"]⟩ := rfl
  rw [sampleFound, Pattern.search, given]
  rw [Effect.bind_apply_of_ok _ (Extracting.ofExcept_apply _ _), Class.extract,
    Extracting.extract, Walk.run_eq_visit]
  exact ⟨rfl, rfl, rfl⟩

theorem search_sampleTree (pattern : Pattern) :
    pattern.search .default sampleTree (.start []) = (.ok (), sampleFound pattern) := by
  cases pattern with
  | factoryCall => exact Prod.ext search_sampleTree_factoryCall.1 rfl
  | classDeclaration => exact Prod.ext search_sampleTree_classDeclaration.1 rfl

/-- In the sample, one pattern finds nothing and the other one a component without a name. -/
theorem isLost_sampleTree :
    Extraction.IsLost sampleFound sampleTree.detectPattern := by
  have detected : sampleTree.detectPattern = .classDeclaration := rfl
  obtain ⟨-, -, outline⟩ := search_sampleTree_factoryCall
  obtain ⟨-, unrecognized, empty⟩ := search_sampleTree_classDeclaration
  rw [detected]
  refine ⟨unrecognized, ?_, ?_⟩
  · rw [Pattern.other, outline]
    rfl
  · rw [Pattern.other, outline, empty]
    intro same
    cases same

/-- A strict reader of scripts that has read nothing yet. -/
def sampleReader : Reader where
  dialect := .javascript
  strict := .bool true
  prepared := []
  cache := .empty none

theorem fetch_sampleReader (tree : Node) (grammar : Dialect) (text : String) :
    ∃ between,
      fetch (fun _ _ => tree) grammar text (sampleReader, []) = (.ok tree, between) :=
  ⟨_, rfl⟩

/-- Such a reader takes a tree without defects that has statements. -/
theorem parse_sampleReader
    {tree : Node}
    {code : Value}
    {text : String}
    (isText : sourceText code = .ok text)
    (sound : tree.hasDefect = false)
    (filled : tree.statements.isEmpty = false) :
    ∃ between,
      parse (fun _ _ => tree) code .null (sampleReader, []) = (.ok tree, between) := by
  obtain ⟨between, fetched⟩ := fetch_sampleReader tree .javascript text
  have parsed :
      parse (fun _ _ => tree) code .null (sampleReader, []) =
        (do
          write (Reader.parsedRecord .javascript text.length)
          return tree : Reading Node) between := by
    rw [parse, isText, Effect.bind_apply_of_ok _ (Effect.ofExcept_apply _ _),
      Effect.bind_apply_of_ok _ (Effect.get_apply _)]
    change (fetch (fun _ _ => tree) .javascript text >>= _) (sampleReader, []) = _
    rw [Effect.bind_apply_of_ok _ fetched]
    simp only [sound, filled, Bool.and_false, Bool.false_eq_true, if_false]
    rfl
  exact ⟨_, parsed⟩

/-- The source of the tree. -/
def sampleCode : Value :=
  .string "export default React.createClass({getInitialState() {return {d: 1};}});"

theorem parse_sampleCode :
    ∃ between,
      parse (fun _ _ => sampleTree) sampleCode .null (sampleReader, []) =
        (.ok sampleTree, between) :=
  parse_sampleReader rfl rfl rfl

/-- The sample is an outline that gets lost. -/
theorem extract_returns_recognized_iff_sampleTree :
    ∃ descriptor after,
      extract (fun _ _ => sampleTree) .default sampleCode .null (sampleReader, []) =
          (.ok descriptor, after) ∧
        (Extraction.IsRecognized sampleFound descriptor ↔
          ¬Extraction.IsLost sampleFound sampleTree.detectPattern) := by
  obtain ⟨between, parsed⟩ := parse_sampleCode
  exact extract_returns_recognized_iff parsed search_sampleTree
    ⟨.factoryCall, search_sampleTree_factoryCall.2.1⟩

/-- Not every component that is recognized is returned: the anonymous one of a default
export is lost. -/
theorem not_forall_extract_returns_recognized :
    ¬∀ (grammars : Grammars) (settings : Settings) (code : Value)
        (state between : Reader × Log) (root : Node) (found : Pattern → Progress),
      parse grammars code .null state = (.ok root, between) →
      (∀ pattern : Pattern,
        pattern.search settings root (.start []) = (.ok (), found pattern)) →
      (∃ pattern, (found pattern).nameFound = true) →
      ∃ descriptor after,
        extract grammars settings code .null state = (.ok descriptor, after) ∧
          Extraction.IsRecognized found descriptor := by
  intro always
  obtain ⟨between, parsed⟩ := parse_sampleCode
  have recognized : ∃ pattern, (sampleFound pattern).nameFound = true :=
    ⟨.factoryCall, search_sampleTree_factoryCall.2.1⟩
  obtain ⟨descriptor, after, extracted, isRecognized⟩ :=
    always _ .default _ _ between _ sampleFound parsed search_sampleTree recognized
  obtain ⟨_, chosen⟩ := extract_ok parsed search_sampleTree
  cases chosen.symm.trans extracted
  have consistent : ∀ pattern, (sampleFound pattern).Consistent := by
    intro pattern
    exact Pattern.consistent_of_search (search_sampleTree pattern)
  exact (Extraction.isRecognized_chosen_iff consistent recognized).mp isRecognized
    isLost_sampleTree

end Reading
end ComponentOutline
