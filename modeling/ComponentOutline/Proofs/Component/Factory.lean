import ComponentOutline.Component.Factory
import ComponentOutline.Proofs.Component.Binding
import ComponentOutline.Proofs.Component.Recording

/-!
# The component that a factory call declares

The places of a tree outside of elements are surveyed in pre-order.  The first factory
call among them is the component: the nearest binding around it gives the name, and the
first member of its configuration object under the supplier's key gives the state.  The
first element among them gives the props and the children.  An extraction that returns
has found exactly that.
-/

namespace ComponentOutline

open Walk

namespace Factory

/-! ## The survey -/

/-- Reads the state from the configuration object of a factory call. -/
def lookConfiguration (options : FactoryOptions) (call : Node) : Extracting Unit :=
  match firstArgument? call with
  | some object =>
      if object.kind == "object" then readSupplier options object
      else Extracting.write (enterCall.unconfigured call)
  | none => Extracting.write (enterCall.unconfigured call)

/-- A look at a call: the first factory call is the component. -/
def lookCall (options : FactoryOptions) (call : Node) (binding : Option String) :
    Extracting Unit := do
  let progress ← get
  if !progress.nameFound then
    let recognized ← Extracting.ofExcept (isFactoryCall options call)
    if recognized then
      Extracting.recordName .factoryCall binding
      lookConfiguration options call

/-- A look at a place outside of elements. -/
def look (options : FactoryOptions) (place : Occurrence) : Extracting Unit :=
  match place.node.kind with
  | "variable_declarator" => Extracting.lookTarget "name" place.node
  | "assignment_expression" => Extracting.lookTarget "left" place.node
  | "call_expression" => lookCall options place.node place.binding?
  | "jsx_element" => Extracting.lookElement place.node
  | "jsx_self_closing_element" => Extracting.lookElement place.node
  | _ => pure ()

theorem enterCall_apply (options : FactoryOptions) (call : Node) (progress : Progress) :
    enterCall options call progress =
      (do
        lookCall options call progress.enclosingBinding
        return .descend : Extracting Extracting.Outcome) progress := by
  unfold enterCall lookCall lookConfiguration
  rw [bind_assoc, Effect.bind_apply_of_ok _ (Effect.get_apply progress),
    Effect.bind_apply_of_ok _ (Effect.get_apply progress)]
  split
  · rw [bind_assoc, Effect.bind_apply, Effect.bind_apply, Extracting.ofExcept_apply]
    cases isFactoryCall options call with
    | error failure => rfl
    | ok recognized =>
        cases recognized with
        | false => rfl
        | true =>
            cases firstArgument? call with
            | none => rfl
            | some object =>
                simp only [if_true, bind_assoc]
                split
                · rfl
                · rfl
  · rfl

/-- What a supplier records depends neither on the scope nor on the log. -/
theorem ignores_readSupplier
    {scope : Scope}
    {before : Log}
    (options : FactoryOptions)
    (object : Node) :
    Effect.Ignores (Progress.placed scope before) (readSupplier options object) := by
  unfold readSupplier
  refine (Effect.ignores_ofExcept _).bind fun supplier => ?_
  cases supplier with
  | none => exact Effect.ignores_pure _
  | some function =>
      apply Effect.ignores_get_bind
      · intro progress
        rfl
      · intro progress
        split
        · exact (Effect.ignores_ofExcept _).bind fun initializer =>
            Extracting.ignores_recordState initializer
        · exact Effect.ignores_pure _

theorem ignores_lookCall
    {scope : Scope}
    {before : Log}
    (options : FactoryOptions)
    (call : Node)
    (binding : Option String) :
    Effect.Ignores (Progress.placed scope before) (lookCall options call binding) := by
  unfold lookCall
  apply Effect.ignores_get_bind
  · intro progress
    rfl
  intro progress
  split
  · refine (Effect.ignores_ofExcept _).bind fun recognized => ?_
    split
    · refine (Extracting.ignores_recordName _ _).bind fun _ => ?_
      unfold lookConfiguration
      split
      · split
        · exact ignores_readSupplier options _
        · exact Extracting.ignores_write _
      · exact Extracting.ignores_write _
    · exact Effect.ignores_pure _
  · exact Effect.ignores_pure _

/-- The walk of the factory pattern is the survey of the places outside of elements. -/
theorem surveys (options : FactoryOptions) (before : Log) :
    Surveys (handlers options) Markup.isElement (Scope.outermost.around) before
      (fun _ => True) (look options) where
  kept := fun _ _ _ _ _ => trivial
  barred := by
    intro around node progress barred _
    have handled : handlers options node.kind = some Extracting.enterElement := by
      obtain kind | kind := (Markup.isElement_iff node).mp barred
      · rw [kind]
        rfl
      · rw [kind]
        rfl
    have looked : look options ⟨around, node⟩ = Extracting.lookElement node := by
      obtain kind | kind := (Markup.isElement_iff node).mp barred
      · simp only [look, kind]
      · simp only [look, kind]
    rw [looked]
    apply visit_agrees_of_prune handled (Extracting.ignores_lookElement node)
    rw [Extracting.enterElement_eq]
  passed := by
    intro around node progress unbarred unhandled
    unfold handlers at unhandled
    split at unhandled
    · cases unhandled
    · cases unhandled
    · cases unhandled
    · cases unhandled
    · cases unhandled
    · next noDeclarator noAssignment noCall noElement noSelfClosing =>
        constructor
        · apply Scope.around_cons_of_other
          exact Node.isBinding_eq_false noDeclarator noAssignment
        · simp only [look]
          rfl
  entered := by
    intro around node handler progress unbarred handled _
    unfold handlers at handled
    split at handled
    · next kind =>
        cases handled
        simp only [look, kind]
        exact enters_declarator kind _ around before progress
    · next kind =>
        cases handled
        simp only [look, kind]
        exact enters_assignment kind _ around before progress
    · next kind =>
        cases handled
        have other : node.isBinding = false := by
          apply Node.isBinding_eq_false <;> simp [kind]
        simp only [look, kind]
        rw [Scope.around_cons_of_other other, enterCall_apply, Occurrence.binding?_eq_head]
        exact enters_of_descend (ignores_lookCall options node _) progress
    · next kind =>
        rw [(Markup.isElement_iff node).mpr (.inl kind)] at unbarred
        cases unbarred
    · next kind =>
        rw [(Markup.isElement_iff node).mpr (.inr kind)] at unbarred
        cases unbarred
    · cases handled

/-! ## What a survey finds -/

/-- Whether the text of a node is one of some names. -/
def isNamedIn (names : List Text) (node : Node) : Bool :=
  match node.text with
  | .ok name => names.contains (Text.ofString name)
  | .error _ => false

/-- Whether a node is a call of a factory, by its own name or as a member. -/
def isCallOf (callees : List Text) (node : Node) : Bool :=
  node.kind == "call_expression" &&
    match node.child? "function" with
    | none => false
    | some callee =>
        if callee.kind = "identifier" then isNamedIn callees callee
        else if callee.kind = "member_expression" then
          (callee.child? "property").any (isNamedIn callees)
        else false

/-- A node is named in a list exactly if its text is. -/
theorem isNamedIn_of_readText
    {node : Node}
    {name : String}
    (read : node.readText = .ok name)
    (names : List Text) :
    isNamedIn names node = names.contains (Text.ofString name) := by
  unfold isNamedIn
  rw [Node.readText_eq_ok_iff.mp read]

/-- A call that can be judged is judged by its callee. -/
theorem isCallOf_of_isFactoryCall
    {options : FactoryOptions}
    {call : Node}
    {recognized : Bool}
    (kind : call.kind = "call_expression")
    (judged : isFactoryCall options call = .ok recognized) :
    isCallOf options.callees call = recognized := by
  obtain ⟨callee, required, judged⟩ := Effect.ok_of_except_bind judged
  simp only [isCallOf, kind, Node.child?_of_requireField required, BEq.rfl, Bool.true_and]
  split at judged
  · next member =>
      have kindOfCallee : callee.kind = "member_expression" := by simpa using member
      simp only [kindOfCallee, String.reduceEq, if_false, if_true]
      split at judged
      · next property found =>
          obtain ⟨name, read, judged⟩ := Effect.ok_of_except_bind judged
          cases judged
          rw [found]
          exact isNamedIn_of_readText read options.callees
      · next absent =>
          cases judged
          rw [absent]
          rfl
  · next noMember =>
      split at judged
      · next identifier =>
          obtain ⟨name, read, judged⟩ := Effect.ok_of_except_bind judged
          cases judged
          rw [if_pos (by simpa using identifier)]
          exact isNamedIn_of_readText read options.callees
      · next noIdentifier =>
          cases judged
          rw [if_neg (by simpa using noIdentifier), if_neg (by simpa using noMember)]

/-- Whether a key has a name. -/
def isKeyedBy (name : Text) (key : Option Node) : Bool :=
  match keyName key with
  | .ok (some found) => found == name
  | _ => false

/-- Whether a member of a configuration object stands under the supplier's key. -/
def isSupplying (supplier : Text) (member : Node) : Bool :=
  if member.kind = "pair" then isKeyedBy supplier (member.child? "key")
  else if member.kind = "method_definition" then isKeyedBy supplier (member.child? "name")
  else false

/-- The function that a member of a configuration object holds: the value of a pair, and
a method itself. -/
def functionOf? (member : Node) : Option Node :=
  if member.kind = "pair" then member.child? "value" else some member

/-- The code compares keys as the specification does. -/
theorem isKeyedBy_of_keyName
    {key : Option Node}
    {name : Option Text}
    (read : keyName key = .ok name)
    (supplier : Text) :
    isKeyedBy supplier key = isKeyed name (.text supplier) := by
  unfold isKeyedBy
  rw [read]
  cases name with
  | none => rfl
  | some found => rfl

/-- The supplier that is found among members is that of the first one under its key. -/
theorem supplier?_eq_find?
    {callees : List Text}
    {supplier : Text}
    {found : Option Node}
    (members : List Node)
    (searched : supplier? ⟨callees, .text supplier⟩ members = .ok found) :
    found.map some = (members.find? (isSupplying supplier)).map functionOf? := by
  induction members with
  | nil =>
      cases searched
      rfl
  | cons member rest inductionHypothesis =>
      rw [supplier?] at searched
      split at searched
      · next pair =>
          have kind : member.kind = "pair" := by simpa using pair
          obtain ⟨name, read, searched⟩ := Effect.ok_of_except_bind searched
          have supplying :
              isSupplying supplier member = isKeyed name (.text supplier) := by
            rw [isSupplying, if_pos kind, isKeyedBy_of_keyName read]
          split at searched
          · next keyed =>
              obtain ⟨function, required, rfl⟩ := Effect.ok_of_except_map searched
              rw [List.find?_cons_of_pos (supplying.trans keyed), Option.map_some,
                Option.map_some, functionOf?, if_pos kind,
                Node.child?_of_requireField required]
          · next other =>
              rw [List.find?_cons_of_neg (by rw [supplying]; exact other)]
              exact inductionHypothesis searched
      · next noPair =>
          have notPair : member.kind ≠ "pair" := by simpa using noPair
          split at searched
          · next method =>
              have kind : member.kind = "method_definition" := by simpa using method
              obtain ⟨name, read, searched⟩ := Effect.ok_of_except_bind searched
              have supplying :
                  isSupplying supplier member = isKeyed name (.text supplier) := by
                rw [isSupplying, if_neg notPair, if_pos kind, isKeyedBy_of_keyName read]
              split at searched
              · next keyed =>
                  cases searched
                  rw [List.find?_cons_of_pos (supplying.trans keyed), Option.map_some,
                    Option.map_some, functionOf?, if_neg notPair]
              · next other =>
                  rw [List.find?_cons_of_neg (by rw [supplying]; exact other)]
                  exact inductionHypothesis searched
          · next noMethod =>
              have notMethod : member.kind ≠ "method_definition" := by simpa using noMethod
              have silent : isSupplying supplier member = false := by
                rw [isSupplying, if_neg notPair, if_neg notMethod]
              rw [List.find?_cons_of_neg (by simp [silent])]
              exact inductionHypothesis searched

/-- The configuration object of a call: its first argument, if that is an object. -/
def configuration? (call : Node) : Option Node :=
  (firstArgument? call).filter fun object => object.kind == "object"

/-- The state that the configuration object of a call supplies, if it has a supplier. -/
def readState (options : FactoryOptions) (call : Node) :
    Except Failure (Option (List StateEntry)) :=
  match configuration? call with
  | none => .ok none
  | some object => do
      match ← supplier? options object.namedChildren with
      | none => return none
      | some function =>
          let initializer ← returnedExpression function
          let state ← Literal.componentState initializer
          return some state

theorem lookConfiguration_eq (options : FactoryOptions) (call : Node) :
    lookConfiguration options call =
      match configuration? call with
      | some object => readSupplier options object
      | none => Extracting.write (enterCall.unconfigured call) := by
  unfold lookConfiguration configuration?
  cases firstArgument? call with
  | none => rfl
  | some object =>
      cases kind : object.kind == "object" with
      | true => simp only [Option.filter_some, kind, if_true]
      | false => simp only [Option.filter_some, kind, Bool.false_eq_true, if_false]

/-- What reading the state from a configuration object can do: nothing if there is no
supplier, or record what the supplier returns. -/
theorem readSupplier_ok
    {options : FactoryOptions}
    {object : Node}
    {progress later : Progress}
    (consistent : progress.Consistent)
    (named : progress.records.name.isSome = true)
    (unset : progress.records.state = none)
    (looked : readSupplier options object progress = (.ok (), later)) :
    (supplier? options object.namedChildren = .ok none ∧ later = progress) ∨
    ∃ function initializer state,
      supplier? options object.namedChildren = .ok (some function) ∧
      returnedExpression function = .ok initializer ∧
      Literal.componentState initializer = .ok state ∧
      later.Consistent ∧ later.records = { progress.records with state := some state } := by
  unfold readSupplier at looked
  obtain ⟨supplier, _, searched, looked⟩ := Effect.ok_of_bind_apply looked
  obtain ⟨found, rfl⟩ := Prod.mk.inj searched
  cases supplier with
  | none =>
      cases looked
      exact .inl ⟨found, rfl⟩
  | some function =>
      simp only at looked
      rw [Effect.bind_apply_of_ok _ (Effect.get_apply progress), Progress.stateFound_eq,
        unset] at looked
      obtain ⟨initializer, _, evaluated, looked⟩ := Effect.ok_of_bind_apply looked
      obtain ⟨returned, rfl⟩ := Prod.mk.inj evaluated
      obtain ⟨state, read, recorded⟩ := Extracting.recordState_ok consistent named looked
      exact .inr ⟨function, initializer, state, found, returned, read, recorded⟩

/-- The configuration of a call gives its state or leaves it out. -/
theorem lookConfiguration_ok
    {options : FactoryOptions}
    {call : Node}
    {progress later : Progress}
    (consistent : progress.Consistent)
    (named : progress.records.name.isSome = true)
    (unset : progress.records.state = none)
    (looked : lookConfiguration options call progress = (.ok (), later)) :
    ∃ state,
      readState options call = .ok state ∧ later.Consistent ∧
        later.records = { progress.records with state := state } := by
  have unchanged : progress.records = { progress.records with state := none } := by
    rw [← unset]
  rw [lookConfiguration_eq] at looked
  unfold readState
  cases configured : configuration? call with
  | none =>
      rw [configured] at looked
      obtain ⟨consistentLater, records⟩ := Extracting.write_ok consistent looked
      exact ⟨none, rfl, consistentLater, records.trans unchanged⟩
  | some object =>
      rw [configured] at looked
      obtain ⟨searched, rfl⟩ | ⟨function, initializer, state, searched, returned, read,
        recorded⟩ := readSupplier_ok consistent named unset looked
      · refine ⟨none, ?_, consistent, unchanged⟩
        simp only [searched]
        rfl
      · refine ⟨some state, ?_, recorded⟩
        simp only [searched]
        change (do
          let initializer ← returnedExpression function
          let state ← Literal.componentState initializer
          return some state) = _
        rw [returned]
        change (do
          let state ← Literal.componentState initializer
          return some state) = _
        rw [read]
        rfl

/-- What a look at a call that succeeds can do: nothing, or record the component. -/
theorem lookCall_ok
    {options : FactoryOptions}
    {call : Node}
    {binding : Option String}
    {progress later : Progress}
    (consistent : progress.Consistent)
    (kind : call.kind = "call_expression")
    (looked : lookCall options call binding progress = (.ok (), later)) :
    (later = progress ∧
      (progress.records.name.isSome = true ∨ isCallOf options.callees call = false)) ∨
    ∃ state,
      progress.records.name = none ∧ isCallOf options.callees call = true ∧
      readState options call = .ok state ∧ later.Consistent ∧
      later.records =
        { progress.records with name := some (binding.getD ""), state := state } := by
  unfold lookCall at looked
  rw [Effect.bind_apply_of_ok _ (Effect.get_apply progress), Progress.nameFound_eq] at looked
  cases found : progress.records.name with
  | some name =>
      rw [found] at looked
      cases looked
      exact .inl ⟨rfl, .inl rfl⟩
  | none =>
      rw [found] at looked
      obtain ⟨recognized, _, evaluated, looked⟩ := Effect.ok_of_bind_apply looked
      obtain ⟨judged, rfl⟩ := Prod.mk.inj evaluated
      have called := isCallOf_of_isFactoryCall kind judged
      cases recognized with
      | false =>
          cases looked
          exact .inl ⟨rfl, .inr called⟩
      | true =>
          obtain ⟨_, middle, recorded, looked⟩ := Effect.ok_of_bind_apply looked
          obtain ⟨consistentThen, named⟩ := Extracting.recordName_ok consistent recorded
          have isNamed : middle.records.name.isSome = true := by
            rw [named]
            rfl
          have unset : middle.records.state = none := by
            rw [named]
            exact consistent.state_of_unnamed found
          obtain ⟨state, read, consistentLater, records⟩ :=
            lookConfiguration_ok consistentThen isNamed unset looked
          refine .inr ⟨state, rfl, called, read, consistentLater, ?_⟩
          rw [records, named]

/-- The name and the state of the component that a factory call is. -/
def readCall (options : FactoryOptions) (place : Occurrence) :
    Except Failure (String × Option (List StateEntry)) :=
  (readState options place.node).map fun state => (place.binding?.getD "", state)

/-- The name and the state of the component, if it has been recorded. -/
def recordedCall (progress : Progress) : Option (String × Option (List StateEntry)) :=
  progress.records.name.map fun name => (name, progress.records.state)

theorem isCallOf_eq_false
    {node : Node}
    (kind : node.kind ≠ "call_expression")
    (callees : List Text) :
    isCallOf callees node = false := by
  simp [isCallOf, kind]

/-- What one look does to the records: a factory call gives the component unless there
is one already, and an element gives the markup unless there is one already. -/
def Counts (options : FactoryOptions) (place : Occurrence) (progress later : Progress) :
    Prop :=
  FirstWins (fun place => isCallOf options.callees place.node) (readCall options) [place]
      (recordedCall progress) (recordedCall later) ∧
    FirstWins (fun place => Markup.isElement place.node)
      (fun place => Extracting.readMarkup place.node) [place]
      progress.records.markup later.records.markup

/-- A place that is neither a factory call nor an element does not count. -/
theorem counts_of_silent
    {options : FactoryOptions}
    {place : Occurrence}
    (noCall : isCallOf options.callees place.node = false)
    (noElement : Markup.isElement place.node = false)
    (progress : Progress) :
    Counts options place progress progress :=
  ⟨.of_not_gives noCall, .of_not_gives noElement⟩

/-- A call counts if it is the first factory call. -/
theorem counts_of_lookCall
    {options : FactoryOptions}
    {place : Occurrence}
    {progress later : Progress}
    (consistent : progress.Consistent)
    (kind : place.node.kind = "call_expression")
    (looked : lookCall options place.node place.binding? progress = (.ok (), later)) :
    later.Consistent ∧ Counts options place progress later := by
  have noElement : Markup.isElement place.node = false := by
    apply Markup.isElement_eq_false <;> simp [kind]
  obtain ⟨rfl, recorded | noCall⟩ | ⟨state, unnamed, called, read, consistentLater,
    records⟩ := lookCall_ok consistent kind looked
  · have already : (recordedCall later).isSome = true := by
      rw [recordedCall, Option.isSome_map]
      exact recorded
    exact ⟨consistent, .of_isSome already, .of_not_gives noElement⟩
  · exact ⟨consistent, counts_of_silent noCall noElement later⟩
  · refine ⟨consistentLater, ?_, ?_⟩
    · have nothingYet : recordedCall progress = none := by
        rw [recordedCall, unnamed]
        rfl
      have reads : readCall options place = .ok (place.binding?.getD "", state) := by
        rw [readCall, read]
        rfl
      rw [nothingYet, recordedCall, records]
      exact .of_read called reads
    · rw [records]
      exact .of_not_gives noElement

theorem counts_of_lookElement
    {options : FactoryOptions}
    {place : Occurrence}
    {progress later : Progress}
    (consistent : progress.Consistent)
    (element : Markup.isElement place.node = true)
    (looked : Extracting.lookElement place.node progress = (.ok (), later)) :
    later.Consistent ∧ Counts options place progress later := by
  have noCall : isCallOf options.callees place.node = false := by
    apply isCallOf_eq_false
    obtain kind | kind := (Markup.isElement_iff place.node).mp element <;> simp [kind]
  obtain ⟨recorded, rfl⟩ | ⟨markup, nothingYet, read, consistentLater, records⟩ :=
    Extracting.lookElement_ok consistent looked
  · exact ⟨consistent, .of_not_gives noCall, .of_isSome recorded⟩
  · refine ⟨consistentLater, ?_, ?_⟩
    · rw [recordedCall, recordedCall, records]
      exact .of_not_gives noCall
    · rw [nothingYet, records]
      exact .of_read element read

/-- A look that succeeds counts. -/
theorem counts_of_look
    {options : FactoryOptions}
    {place : Occurrence}
    {progress later : Progress}
    (consistent : progress.Consistent)
    (looked : look options place progress = (.ok (), later)) :
    later.Consistent ∧ Counts options place progress later := by
  generalize looking : look options place = step at looked
  unfold look at looking
  split at looking
  · next kind =>
      subst looking
      cases Extracting.lookTarget_ok looked
      refine ⟨consistent, counts_of_silent ?_ ?_ _⟩
      · exact isCallOf_eq_false (by simp [kind]) _
      · exact Markup.isElement_eq_false (by simp [kind]) (by simp [kind])
  · next kind =>
      subst looking
      cases Extracting.lookTarget_ok looked
      refine ⟨consistent, counts_of_silent ?_ ?_ _⟩
      · exact isCallOf_eq_false (by simp [kind]) _
      · exact Markup.isElement_eq_false (by simp [kind]) (by simp [kind])
  · next kind =>
      subst looking
      exact counts_of_lookCall consistent kind looked
  · next kind =>
      subst looking
      exact counts_of_lookElement consistent ((Markup.isElement_iff _).mpr (.inl kind)) looked
  · next kind =>
      subst looking
      exact counts_of_lookElement consistent ((Markup.isElement_iff _).mpr (.inr kind)) looked
  · next noCall noElement noSelfClosing =>
      subst looking
      cases looked
      refine ⟨consistent, counts_of_silent ?_ ?_ _⟩
      · exact isCallOf_eq_false noCall _
      · exact Markup.isElement_eq_false noElement noSelfClosing

/-- An extraction that returns has recorded the first factory call and the first element
of the places outside of elements. -/
theorem extract_ok
    {options : FactoryOptions}
    {root : Node}
    {log : Log}
    {progress : Progress}
    (extracted : extract options root (.start log) = (.ok (), progress)) :
    progress.Consistent ∧
      firstRead (fun place => isCallOf options.callees place.node) (readCall options)
        (root.reached Markup.isElement) = .ok (recordedCall progress) ∧
      firstRead (fun place => Markup.isElement place.node)
        (fun place => Extracting.readMarkup place.node)
        (root.reached Markup.isElement) = .ok progress.records.markup := by
  obtain ⟨later, surveyed, findings⟩ :=
    Surveys.survey_of_extract (surveys options) rfl trivial extracted
  obtain ⟨consistent, calls⟩ := FirstWins.survey
    (fun place before after consistent looked =>
      (counts_of_look consistent looked).imp_right And.left)
    _ _ _ (Progress.consistent_start []) surveyed
  obtain ⟨-, elements⟩ := FirstWins.survey
    (fun place before after consistent looked =>
      (counts_of_look consistent looked).imp_right And.right)
    _ _ _ (Progress.consistent_start []) surveyed
  have records := Progress.records_eq_of_findings findings
  refine ⟨consistent.of_findings findings, ?_, ?_⟩
  · rw [recordedCall, records]
    exact calls
  · rw [records]
    exact elements

/-! ## The outline -/

/-- The member of a call's configuration object that stands under the supplier's key. -/
def supplyingMember? (supplier : Text) (call : Node) : Option Node :=
  (configuration? call).bind fun object =>
    object.namedChildren.find? (isSupplying supplier)

/-- A state is what the function of a supplying member returns; without such a member it
is empty. -/
def IsStateOf (state : List StateEntry) : Option Node → Prop
  | none => state = []
  | some member =>
      ∃ function initializer,
        functionOf? member = some function ∧
        returnedExpression function = .ok initializer ∧
        Literal.componentState initializer = .ok state

/-- The outline of the component that a tree declares by the first factory call outside
of elements, with the markup of the first element. -/
structure Describes
    (callees : List Text)
    (supplier : Text)
    (root : Node)
    (descriptor : Descriptor) : Prop where
  component :
    match (root.reached Markup.isElement).find? fun place => isCallOf callees place.node with
    | none => descriptor.name = "" ∧ descriptor.state = []
    | some call =>
        descriptor.name = call.binding?.getD "" ∧
          IsStateOf descriptor.state (supplyingMember? supplier call.node)
  markup :
    descriptor.HasMarkupOf
      (((root.reached Markup.isElement).find? fun place =>
        Markup.isElement place.node).map Occurrence.node)

/-- A supplying member determines the state. -/
theorem IsStateOf.unique
    {state other : List StateEntry}
    {member : Option Node}
    (isState : IsStateOf state member)
    (isStateToo : IsStateOf other member) :
    state = other := by
  cases member with
  | none => exact isState.trans isStateToo.symm
  | some member =>
      obtain ⟨function, initializer, held, returned, read⟩ := isState
      obtain ⟨_, _, heldToo, returnedToo, readToo⟩ := isStateToo
      cases held.symm.trans heldToo
      cases returned.symm.trans returnedToo
      exact Except.ok.inj (read.symm.trans readToo)

/-- A tree determines the outline of its component. -/
theorem Describes.unique
    {callees : List Text}
    {supplier : Text}
    {root : Node}
    {descriptor other : Descriptor}
    (describes : Describes callees supplier root descriptor)
    (describesToo : Describes callees supplier root other) :
    descriptor = other := by
  have component := describes.component
  have componentToo := describesToo.component
  have markup := describes.markup.unique describesToo.markup
  cases found : (root.reached Markup.isElement).find? fun place =>
      isCallOf callees place.node with
  | none =>
      simp only [found] at component componentToo
      exact Descriptor.eq_of_parts (component.1.trans componentToo.1.symm)
        (component.2.trans componentToo.2.symm) markup
  | some call =>
      simp only [found] at component componentToo
      exact Descriptor.eq_of_parts (component.1.trans componentToo.1.symm)
        (component.2.unique componentToo.2) markup

/-- The state that is read from a call is the one its supplying member gives. -/
theorem isStateOf_of_readState
    {callees : List Text}
    {supplier : Text}
    {call : Node}
    {state : Option (List StateEntry)}
    (read : readState ⟨callees, .text supplier⟩ call = .ok state) :
    IsStateOf (state.getD []) (supplyingMember? supplier call) := by
  unfold readState at read
  unfold supplyingMember?
  cases configured : configuration? call with
  | none =>
      rw [configured] at read
      cases read
      exact rfl
  | some object =>
      rw [configured] at read
      obtain ⟨function, searched, read⟩ := Effect.ok_of_except_bind read
      have found := supplier?_eq_find? object.namedChildren searched
      rw [Option.bind_some]
      cases member : object.namedChildren.find? (isSupplying supplier) with
      | none =>
          rw [member, Option.map_none, Option.map_eq_none_iff] at found
          subst found
          cases read
          exact rfl
      | some supplying =>
          rw [member, Option.map_some, Option.map_eq_some_iff] at found
          obtain ⟨supplied, rfl, held⟩ := found
          obtain ⟨initializer, returned, read⟩ := Effect.ok_of_except_bind read
          obtain ⟨entries, evaluated, read⟩ := Effect.ok_of_except_bind read
          cases read
          exact ⟨supplied, initializer, held.symm, returned, evaluated⟩

/-- The options that a caller gives are the ones that count. -/
theorem ofValues_of_given
    {callees : List Text}
    {supplier : Text}
    (someCallees : callees ≠ [])
    (someSupplier : supplier ≠ [])
    (settings : Settings) :
    FactoryOptions.ofValues (.list (callees.map .text)) (.text supplier) settings =
      .ok ⟨callees, .text supplier⟩ := by
  have calleesGiven : (Value.list (callees.map .text)).isTruthy = true := by
    simp [Value.isTruthy, someCallees]
  have supplierGiven : (Value.text supplier).isTruthy = true := by
    simp [Value.isTruthy, someSupplier]
  simp only [FactoryOptions.ofValues, calleesGiven, supplierGiven, if_true,
    Value.names_texts]
  rfl

/-- An extraction that returns has found the component of the first factory call and the
markup of the first element. -/
theorem describes_of_extract_ok
    {callees : List Text}
    {supplier : Text}
    {root : Node}
    {log : Log}
    {progress : Progress}
    (extracted : extract ⟨callees, .text supplier⟩ root (.start log) = (.ok (), progress)) :
    Describes callees supplier root progress.descriptor := by
  obtain ⟨consistent, calls, elements⟩ := extract_ok extracted
  refine ⟨?_, consistent.hasMarkupOf_first elements⟩
  rw [consistent.descriptor_eq]
  unfold firstRead at calls
  cases found : (root.reached Markup.isElement).find? fun place =>
      isCallOf callees place.node with
  | none =>
      simp only [found] at calls
      have unnamed : progress.records.name = none :=
        Option.map_eq_none_iff.mp (Except.ok.inj calls).symm
      have unset := consistent.state_of_unnamed unnamed
      rw [Records.descriptor, unnamed, unset]
      exact ⟨rfl, rfl⟩
  | some call =>
      simp only [found] at calls
      obtain ⟨_, readComponent, recorded⟩ := Effect.ok_of_except_map calls
      obtain ⟨state, read, rfl⟩ := Effect.ok_of_except_map readComponent
      obtain ⟨name, named, paired⟩ := Option.map_eq_some_iff.mp recorded.symm
      obtain ⟨rfl, stated⟩ := Prod.mk.inj paired
      rw [Records.descriptor, named, stated]
      exact ⟨rfl, isStateOf_of_readState read⟩

/-- Whenever an extraction with given callees and a given supplier returns, its outline is
the one of the first factory call and the first element. -/
theorem describes_iff_extracted_call
    {callees : List Text}
    {supplier : Text}
    {settings : Settings}
    {options : FactoryOptions}
    {root : Node}
    {log : Log}
    {progress : Progress}
    (someCallees : callees ≠ [])
    (someSupplier : supplier ≠ [])
    (given : FactoryOptions.ofValues (.list (callees.map .text)) (.text supplier) settings =
      .ok options)
    (extracted : extract options root (.start log) = (.ok (), progress)) :
    ∀ descriptor,
      Describes callees supplier root descriptor ↔ descriptor = progress.descriptor := by
  rw [ofValues_of_given someCallees someSupplier] at given
  cases given
  have describes := describes_of_extract_ok extracted
  intro descriptor
  constructor
  · intro describesToo
    exact describesToo.unique describes
  · rintro rfl
    exact describes

/-- The tree of `A = f({g: () => ({n: null})})`. -/
def sampleTree : Node :=
  .ofText "assignment_expression" none "A = f({g: () => ({n: null})})" [
    .ofText "identifier" (some "left") "A" [],
    .ofText "call_expression" (some "right") "f({g: () => ({n: null})})" [
      .ofText "identifier" (some "function") "f" [],
      .ofText "arguments" (some "arguments") "({g: () => ({n: null})})" [
        .ofText "object" none "{g: () => ({n: null})}" [
          .ofText "pair" none "g: () => ({n: null})" [
            .ofText "property_identifier" (some "key") "g" [],
            .ofText "arrow_function" (some "value") "() => ({n: null})" [
              .ofText "parenthesized_expression" (some "body") "({n: null})" [
                .ofText "object" none "{n: null}" [
                  .ofText "pair" none "n: null" [
                    .ofText "property_identifier" (some "key") "n" [],
                    .ofText "null" (some "value") "null" []]]]]]]]]]

/-- A factory call with a state and no markup, as it is described and as it is extracted. -/
theorem describes_iff_extracted_call_sampleTree :
    ∃ progress,
      extract ⟨[Text.ofString "f"], .string "g"⟩ sampleTree (.start []) =
          (.ok (), progress) ∧
        progress.descriptor = .mk "A" [⟨Text.ofString "n", .null⟩] [] [] ∧
        Describes [Text.ofString "f"] (Text.ofString "g") sampleTree
          progress.descriptor := by
  have extracted :
      extract ⟨[Text.ofString "f"], .string "g"⟩ sampleTree (.start []) =
        (.ok (),
          (extract ⟨[Text.ofString "f"], .string "g"⟩ sampleTree (.start [])).2) := by
    rw [extract, Extracting.extract, run_eq_visit]
    rfl
  have given :
      FactoryOptions.ofValues (.list ([Text.ofString "f"].map .text))
          (.text (Text.ofString "g")) Settings.default =
        .ok ⟨[Text.ofString "f"], .string "g"⟩ := rfl
  refine ⟨_, extracted, ?_, ?_⟩
  · rw [extract, Extracting.extract, run_eq_visit]
    rfl
  · exact (describes_iff_extracted_call (List.cons_ne_nil _ _) (List.cons_ne_nil _ _)
      given extracted _).mpr rfl

end Factory
end ComponentOutline
