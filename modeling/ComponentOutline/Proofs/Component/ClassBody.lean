import ComponentOutline.Component.Class
import ComponentOutline.Proofs.Component.Binding
import ComponentOutline.Proofs.Component.Recording

/-!
# The inside of a component class

Inside of the component, the places outside of further classes and elements are surveyed
in pre-order.  The first assignment to `this.state` or field `state` among them gives the
state, whichever comes first, and the first element gives the markup.
-/

namespace ComponentOutline

open Walk

/-- Whether a node can be read as a text. -/
def Node.hasText (text : String) (node : Node) : Bool :=
  match node.text with
  | .ok found => found == text
  | .error _ => false

/-- A node has the text that can be read off it. -/
theorem Node.hasText_of_readText
    {node : Node}
    {found : String}
    (read : node.readText = .ok found)
    (text : String) :
    node.hasText text = (found == text) := by
  unfold Node.hasText
  rw [Node.readText_eq_ok_iff.mp read]

namespace Class

/-- Whether a node is a class, declared or as an expression. -/
def isClass (node : Node) : Bool :=
  node.kind == "class_declaration" || node.kind == "class"

/-- Whether a node is one that the survey does not go into. -/
def isBarrier (node : Node) : Bool :=
  isClass node || Markup.isElement node

theorem isClass_iff (node : Node) :
    isClass node = true ↔ node.kind = "class_declaration" ∨ node.kind = "class" := by
  simp [isClass]

/-- A survey stops at classes and at markup. -/
theorem isBarrier_iff (node : Node) :
    isBarrier node = true ↔ isClass node = true ∨ Markup.isElement node = true := by
  simp [isBarrier]

/-! ## What gives the state -/

/-- Whether a node is `this.state`. -/
def isStateTarget (target : Node) : Bool :=
  target.kind == "member_expression" &&
    (target.child? "object").any (fun object => object.kind == "this") &&
    (target.child? "property").any (Node.hasText "state")

/-- Whether a node is an assignment to `this.state`. -/
def isStateAssignment (node : Node) : Bool :=
  node.kind == "assignment_expression" && (node.child? "left").any isStateTarget

/-- Whether a node is a field of a class. -/
def isField (node : Node) : Bool :=
  node.kind == "field_definition" || node.kind == "public_field_definition"

/-- Whether a node is a field `state` with a value. -/
def isStateField (node : Node) : Bool :=
  isField node && (node.child? "value").isSome && (fieldName? node).any (Node.hasText "state")

/-- Whether a node gives the state of the component that it stands in. -/
def givesState (node : Node) : Bool :=
  isStateAssignment node || isStateField node

/-- The initializer that a node holds: the right side of an assignment, and the value of
a field. -/
def initializer? (node : Node) : Option Node :=
  node.child? (if node.kind = "assignment_expression" then "right" else "value")

/-- The state that a node gives. -/
def readState (node : Node) : Except Failure (List StateEntry) :=
  match initializer? node with
  | some initializer => Literal.componentState initializer
  | none => .error (.fault (.malformedNode node.kind "right" node.line))

/-- The code recognises the targets that the specification names. -/
theorem isStateTarget_of_isThisState
    {target : Node}
    {isState : Bool}
    (judged : isThisState target = .ok isState) :
    isStateTarget target = isState := by
  unfold isThisState at judged
  unfold isStateTarget
  split at judged
  · next member =>
      rw [member, Bool.true_and]
      split at judged
      · next object property held named =>
          rw [held, named, Option.any_some, Option.any_some]
          split at judged
          · next this =>
              obtain ⟨text, read, rfl⟩ := Effect.ok_of_except_map judged
              rw [this, Bool.true_and, Node.hasText_of_readText read]
          · next other =>
              cases judged
              rw [Bool.not_eq_true] at other
              rw [other, Bool.false_and]
      · next incomplete =>
          cases judged
          cases held : target.child? "object" with
          | none => rfl
          | some object =>
              cases named : target.child? "property" with
              | none => simp
              | some property => exact absurd named (incomplete _ _ held)
  · next other =>
      cases judged
      rw [Bool.not_eq_true] at other
      rw [other, Bool.false_and, Bool.false_and]

/-! ## Looks inside of the component -/

/-- A look at an assignment: the first one to `this.state` gives the state. -/
def lookAssignment (node : Node) : Extracting Unit := do
  let target ← Extracting.ofExcept (node.requireField "left")
  let progress ← get
  if !progress.stateFound then
    let isState ← Extracting.ofExcept (isThisState target)
    if isState then
      let initializer ← Extracting.ofExcept (node.requireField "right")
      Extracting.recordState initializer

/-- A look at a field: the first field `state` gives the state. -/
def lookField (node : Node) : Extracting Unit := do
  let progress ← get
  if !progress.stateFound then
    match node.child? "value", fieldName? node with
    | some value, some nameNode =>
        let name ← Extracting.ofExcept nameNode.readText
        if name == "state" then
          Extracting.recordState value
    | _, _ => pure ()

/-- A look at a place inside of the component. -/
def lookInside (place : Occurrence) : Extracting Unit :=
  match place.node.kind with
  | "variable_declarator" => Extracting.lookTarget "name" place.node
  | "assignment_expression" => do
      lookAssignment place.node
      Extracting.lookTarget "left" place.node
  | "field_definition" => lookField place.node
  | "public_field_definition" => lookField place.node
  | "jsx_element" => Extracting.lookElement place.node
  | "jsx_self_closing_element" => Extracting.lookElement place.node
  | _ => pure ()

/-- What one look inside of the component does to the records: a place that gives the
state gives it unless there is one already, and so for the markup. -/
structure Counts (place : Occurrence) (progress later : Progress) : Prop where
  name : later.records.name = progress.records.name
  state : FirstWins (fun place => givesState place.node)
    (fun place => readState place.node) [place] progress.records.state later.records.state
  markup : FirstWins (fun place => Markup.isElement place.node)
    (fun place => Extracting.readMarkup place.node) [place]
    progress.records.markup later.records.markup

theorem isField_iff (node : Node) :
    isField node = true ↔
      node.kind = "field_definition" ∨ node.kind = "public_field_definition" := by
  simp [isField]

/-- An assignment gives a state if its target is the state of the instance. -/
theorem givesState_of_assignment
    {node : Node}
    (kind : node.kind = "assignment_expression") :
    givesState node = (node.child? "left").any isStateTarget := by
  simp [givesState, isStateAssignment, isStateField, isField, kind]

/-- A field gives a state if it has that name and a value. -/
theorem givesState_of_field
    {node : Node}
    (field : isField node = true) :
    givesState node =
      ((node.child? "value").isSome && (fieldName? node).any (Node.hasText "state")) := by
  have noAssignment : isStateAssignment node = false := by
    obtain kind | kind := (isField_iff node).mp field
    · simp [isStateAssignment, kind]
    · simp [isStateAssignment, kind]
  rw [givesState, noAssignment, isStateField, field, Bool.false_or, Bool.true_and]

/-- Nothing but assignments and fields gives a state. -/
theorem givesState_eq_false
    {node : Node}
    (noAssignment : node.kind ≠ "assignment_expression")
    (noField : isField node = false) :
    givesState node = false := by
  simp [givesState, isStateAssignment, isStateField, noAssignment, noField]

/-- A place that gives nothing new does not count. -/
theorem counts_of_silent
    {place : Occurrence}
    {progress : Progress}
    (noState : progress.records.state.isSome = true ∨ givesState place.node = false)
    (noElement : Markup.isElement place.node = false) :
    Counts place progress progress where
  name := rfl
  state := by
    obtain recorded | silent := noState
    · exact .of_isSome recorded
    · exact .of_not_gives silent
  markup := .of_not_gives noElement

/-- Recording the state of a place that gives it counts. -/
theorem counts_of_recordState
    {place : Occurrence}
    {initializer : Node}
    {progress later : Progress}
    (consistent : progress.Consistent)
    (named : progress.records.name.isSome = true)
    (unset : progress.records.state = none)
    (noElement : Markup.isElement place.node = false)
    (gives : givesState place.node = true)
    (holds : initializer? place.node = some initializer)
    (recorded : Extracting.recordState initializer progress = (.ok (), later)) :
    later.Consistent ∧ Counts place progress later := by
  obtain ⟨state, read, consistentLater, records⟩ :=
    Extracting.recordState_ok consistent named recorded
  have reads : readState place.node = .ok state := by
    rw [readState, holds]
    exact read
  refine ⟨consistentLater, ?_, ?_, ?_⟩
  · rw [records]
  · rw [unset, records]
    exact .of_read gives reads
  · rw [records]
    exact .of_not_gives noElement

/-- An assignment counts if it is the first that gives a state. -/
theorem counts_of_lookAssignment
    {place : Occurrence}
    {progress later : Progress}
    (consistent : progress.Consistent)
    (named : progress.records.name.isSome = true)
    (kind : place.node.kind = "assignment_expression")
    (looked : lookAssignment place.node progress = (.ok (), later)) :
    later.Consistent ∧ Counts place progress later := by
  have noElement : Markup.isElement place.node = false := by
    apply Markup.isElement_eq_false <;> simp [kind]
  unfold lookAssignment at looked
  obtain ⟨target, _, evaluated, looked⟩ := Effect.ok_of_bind_apply looked
  obtain ⟨required, rfl⟩ := Prod.mk.inj evaluated
  rw [Effect.bind_apply_of_ok _ (Effect.get_apply progress), Progress.stateFound_eq] at looked
  cases recorded : progress.records.state with
  | some state =>
      rw [recorded] at looked
      cases looked
      exact ⟨consistent, counts_of_silent (.inl (by rw [recorded]; rfl)) noElement⟩
  | none =>
      rw [recorded] at looked
      obtain ⟨isState, _, evaluated, looked⟩ := Effect.ok_of_bind_apply looked
      obtain ⟨judged, rfl⟩ := Prod.mk.inj evaluated
      have gives : givesState place.node = isState := by
        rw [givesState_of_assignment kind, Node.child?_of_requireField required,
          Option.any_some, isStateTarget_of_isThisState judged]
      cases isState with
      | false =>
          cases looked
          exact ⟨consistent, counts_of_silent (.inr gives) noElement⟩
      | true =>
          obtain ⟨initializer, _, evaluated, looked⟩ := Effect.ok_of_bind_apply looked
          obtain ⟨present, rfl⟩ := Prod.mk.inj evaluated
          have holds : initializer? place.node = some initializer := by
            rw [initializer?, if_pos kind, Node.child?_of_requireField present]
          exact counts_of_recordState consistent named recorded noElement gives holds looked

theorem counts_of_lookField
    {place : Occurrence}
    {progress later : Progress}
    (consistent : progress.Consistent)
    (named : progress.records.name.isSome = true)
    (field : isField place.node = true)
    (looked : lookField place.node progress = (.ok (), later)) :
    later.Consistent ∧ Counts place progress later := by
  have kinds := (isField_iff place.node).mp field
  have noElement : Markup.isElement place.node = false := by
    apply Markup.isElement_eq_false <;> obtain kind | kind := kinds <;> simp [kind]
  have noAssignment : place.node.kind ≠ "assignment_expression" := by
    obtain kind | kind := kinds <;> simp [kind]
  unfold lookField at looked
  rw [Effect.bind_apply_of_ok _ (Effect.get_apply progress), Progress.stateFound_eq] at looked
  cases recorded : progress.records.state with
  | some state =>
      rw [recorded] at looked
      cases looked
      exact ⟨consistent, counts_of_silent (.inl (by rw [recorded]; rfl)) noElement⟩
  | none =>
      rw [recorded] at looked
      have gives := givesState_of_field field
      cases valued : place.node.child? "value" with
      | none =>
          rw [valued] at looked gives
          cases looked
          exact ⟨consistent, counts_of_silent (.inr gives) noElement⟩
      | some value =>
          cases nameless : fieldName? place.node with
          | none =>
              rw [valued, nameless] at looked gives
              cases looked
              exact ⟨consistent, counts_of_silent (.inr gives) noElement⟩
          | some nameNode =>
              rw [valued, nameless] at looked gives
              obtain ⟨name, _, evaluated, looked⟩ := Effect.ok_of_bind_apply looked
              obtain ⟨read, rfl⟩ := Prod.mk.inj evaluated
              rw [Option.isSome_some, Bool.true_and, Option.any_some,
                Node.hasText_of_readText read] at gives
              split at looked
              · next isState =>
                  have holds : initializer? place.node = some value := by
                    rw [initializer?, if_neg noAssignment, valued]
                  exact counts_of_recordState consistent named recorded noElement
                    (gives.trans isState) holds looked
              · next other =>
                  cases looked
                  rw [Bool.not_eq_true] at other
                  exact ⟨consistent, counts_of_silent (.inr (gives.trans other)) noElement⟩

theorem counts_of_lookElement
    {place : Occurrence}
    {progress later : Progress}
    (consistent : progress.Consistent)
    (element : Markup.isElement place.node = true)
    (looked : Extracting.lookElement place.node progress = (.ok (), later)) :
    later.Consistent ∧ Counts place progress later := by
  have noState : givesState place.node = false := by
    obtain kind | kind := (Markup.isElement_iff place.node).mp element
    · apply givesState_eq_false <;> simp [isField, kind]
    · apply givesState_eq_false <;> simp [isField, kind]
  obtain ⟨recorded, rfl⟩ | ⟨markup, nothingYet, read, consistentLater, records⟩ :=
    Extracting.lookElement_ok consistent looked
  · exact ⟨consistent, rfl, .of_not_gives noState, .of_isSome recorded⟩
  · refine ⟨consistentLater, ?_, ?_, ?_⟩
    · rw [records]
    · rw [records]
      exact .of_not_gives noState
    · rw [nothingYet, records]
      exact .of_read element read

/-- A look inside of the component that succeeds counts. -/
theorem counts_of_lookInside
    {place : Occurrence}
    {progress later : Progress}
    (consistent : progress.Consistent)
    (named : progress.records.name.isSome = true)
    (looked : lookInside place progress = (.ok (), later)) :
    later.Consistent ∧ Counts place progress later := by
  generalize looking : lookInside place = step at looked
  unfold lookInside at looking
  split at looking
  · next kind =>
      subst looking
      cases Extracting.lookTarget_ok looked
      refine ⟨consistent, counts_of_silent (.inr ?_) ?_⟩
      · apply givesState_eq_false <;> simp [isField, kind]
      · apply Markup.isElement_eq_false <;> simp [kind]
  · next kind =>
      subst looking
      obtain ⟨_, middle, assigned, looked⟩ := Effect.ok_of_bind_apply looked
      cases Extracting.lookTarget_ok looked
      exact counts_of_lookAssignment consistent named kind assigned
  · next kind =>
      subst looking
      exact counts_of_lookField consistent named (by simp [isField, kind]) looked
  · next kind =>
      subst looking
      exact counts_of_lookField consistent named (by simp [isField, kind]) looked
  · next kind =>
      subst looking
      exact counts_of_lookElement consistent ((Markup.isElement_iff _).mpr (.inl kind)) looked
  · next kind =>
      subst looking
      exact counts_of_lookElement consistent ((Markup.isElement_iff _).mpr (.inr kind)) looked
  · next noAssignment noField noPublicField noElement noSelfClosing =>
      subst looking
      cases looked
      refine ⟨consistent, counts_of_silent (.inr ?_) ?_⟩
      · have otherKind : isField place.node = false := by
          simpa [isField] using ⟨noField, noPublicField⟩
        exact givesState_eq_false noAssignment otherKind
      · exact Markup.isElement_eq_false noElement noSelfClosing

/-- What an assignment records depends neither on the scope nor on the log. -/
theorem ignores_lookAssignment {scope : Scope} {before : Log} (node : Node) :
    Effect.Ignores (Progress.placed scope before) (lookAssignment node) := by
  unfold lookAssignment
  refine (Effect.ignores_ofExcept _).bind fun target => ?_
  apply Effect.ignores_get_bind
  · intro progress
    rfl
  intro progress
  split
  · refine (Effect.ignores_ofExcept _).bind fun isState => ?_
    split
    · exact (Effect.ignores_ofExcept _).bind fun initializer =>
        Extracting.ignores_recordState initializer
    · exact Effect.ignores_pure _
  · exact Effect.ignores_pure _

theorem ignores_lookField {scope : Scope} {before : Log} (node : Node) :
    Effect.Ignores (Progress.placed scope before) (lookField node) := by
  unfold lookField
  apply Effect.ignores_get_bind
  · intro progress
    rfl
  intro progress
  split
  · split
    · refine (Effect.ignores_ofExcept _).bind fun name => ?_
      split
      · exact Extracting.ignores_recordState _
      · exact Effect.ignores_pure _
    · exact Effect.ignores_pure _
  · exact Effect.ignores_pure _

/-! ## The survey of the inside of the component -/

/-- What holds everywhere inside of the component: it is recorded under its name. -/
def IsInside (name : String) (progress : Progress) : Prop :=
  progress.Consistent ∧ progress.records.name = some name

theorem IsInside.nameFound
    {name : String}
    {progress : Progress}
    (inside : IsInside name progress) :
    progress.nameFound = true := by
  rw [Progress.nameFound_eq, inside.2]
  rfl

/-- A look inside of the component stays inside. -/
theorem IsInside.counts_of_lookInside
    {name : String}
    {place : Occurrence}
    {progress later : Progress}
    (inside : IsInside name progress)
    (looked : lookInside place progress = (.ok (), later)) :
    IsInside name later ∧ Counts place progress later := by
  have named : progress.records.name.isSome = true := by
    rw [inside.2]
    rfl
  obtain ⟨consistent, counts⟩ := Class.counts_of_lookInside inside.1 named looked
  exact ⟨⟨consistent, counts.name.trans inside.2⟩, counts⟩

/-- In the component an assignment is looked at before its target is bound. -/
theorem enterAssignment_apply
    {node : Node}
    {progress : Progress}
    (inside : progress.inComponent = true) :
    enterAssignment node progress =
      (do
        lookAssignment node
        Extracting.enterAssignment node : Extracting Extracting.Outcome) progress := by
  unfold enterAssignment lookAssignment
  rw [bind_assoc, Effect.bind_apply, Effect.bind_apply, Extracting.ofExcept_apply]
  cases node.requireField "left" with
  | error failure => rfl
  | ok target =>
      simp only
      rw [bind_assoc, Effect.bind_apply_of_ok _ (Effect.get_apply progress),
        Effect.bind_apply_of_ok _ (Effect.get_apply progress), inside, Bool.true_and]
      cases progress.stateFound with
      | true => rfl
      | false =>
          simp only [Bool.not_false, if_true]
          rw [bind_assoc, Effect.bind_apply, Effect.bind_apply, Extracting.ofExcept_apply]
          cases isThisState target with
          | error failure => rfl
          | ok isState =>
              cases isState with
              | false => rfl
              | true => simp only [if_true, bind_assoc]

theorem enterField_apply
    {node : Node}
    {progress : Progress}
    (inside : progress.inComponent = true) :
    enterField node progress =
      (do
        lookField node
        return .descend : Extracting Extracting.Outcome) progress := by
  unfold enterField lookField
  rw [bind_assoc, Effect.bind_apply_of_ok _ (Effect.get_apply progress),
    Effect.bind_apply_of_ok _ (Effect.get_apply progress), inside, Bool.true_and]
  cases progress.stateFound with
  | true => rfl
  | false =>
      cases node.child? "value" with
      | none => rfl
      | some value =>
          cases fieldName? node with
          | none => rfl
          | some nameNode =>
              simp only [Bool.not_false, if_true]
              rw [bind_assoc, Effect.bind_apply, Effect.bind_apply, Extracting.ofExcept_apply]
              cases nameNode.readText with
              | error failure => rfl
              | ok name =>
                  simp only
                  split
                  · rfl
                  · rfl

theorem isBinding_of_field
    {node : Node}
    (field : isField node = true) :
    node.isBinding = false := by
  obtain kind | kind := (isField_iff node).mp field
  · apply Node.isBinding_eq_false <;> simp [kind]
  · apply Node.isBinding_eq_false <;> simp [kind]

/-- A field of the component is entered in the scope around it. -/
theorem enters_field
    {node : Node}
    (field : isField node = true)
    (bindings : List (Option String))
    (around : List Node)
    (before : Log)
    (progress : Progress) :
    Enters (Scope.around ⟨bindings, true⟩ around)
      (Scope.around ⟨bindings, true⟩ (node :: around)) before
      (enterField node (progress.placed (Scope.around ⟨bindings, true⟩ around) before))
      (lookField node progress) := by
  rw [Scope.around_cons_of_other (isBinding_of_field field), enterField_apply rfl]
  exact enters_of_descend (ignores_lookField node) progress

theorem enterElement_apply
    {node : Node}
    {progress : Progress}
    (inside : progress.inComponent = true) :
    enterElement node progress =
      (do
        Extracting.lookElement node
        return .prune : Extracting Extracting.Outcome) progress := by
  unfold enterElement
  rw [Effect.bind_apply_of_ok _ (Effect.get_apply progress), inside, if_pos rfl,
    Extracting.enterElement_eq]

/-- A class is skipped once there is a component. -/
theorem enterClass_of_nameFound
    {options : ClassOptions}
    {node : Node}
    {progress : Progress}
    (found : progress.nameFound = true) :
    enterClass options node progress = (.ok .prune, progress) := by
  unfold enterClass
  rw [Effect.bind_apply_of_ok _ (Effect.get_apply progress), if_pos found]
  rfl

theorem handlers_of_class
    {node : Node}
    (isClass : isClass node = true)
    (options : ClassOptions) :
    handlers options node.kind = some (enterClass options) := by
  obtain kind | kind := (isClass_iff node).mp isClass
  · rw [kind]
    rfl
  · rw [kind]
    rfl

theorem handlers_of_element
    {node : Node}
    (element : Markup.isElement node = true)
    (options : ClassOptions) :
    handlers options node.kind = some enterElement := by
  obtain kind | kind := (Markup.isElement_iff node).mp element
  · rw [kind]
    rfl
  · rw [kind]
    rfl

/-- The nodes that are gone into have one of three handlers. -/
theorem handlers_cases
    {options : ClassOptions}
    {node : Node}
    {handler : Handler Progress Failure}
    (unbarred : isBarrier node = false)
    (handled : handlers options node.kind = some handler) :
    (node.kind = "variable_declarator" ∧ handler = Extracting.enterDeclarator) ∨
      (node.kind = "assignment_expression" ∧ handler = enterAssignment) ∨
      (isField node = true ∧ handler = enterField) := by
  obtain ⟨noClass, noElement⟩ : isClass node = false ∧ Markup.isElement node = false := by
    simpa [isBarrier] using unbarred
  unfold handlers at handled
  split at handled
  · next kind => simp [isClass, kind] at noClass
  · next kind => simp [isClass, kind] at noClass
  · next kind => exact .inl ⟨kind, (Option.some.inj handled).symm⟩
  · next kind => exact .inr (.inl ⟨kind, (Option.some.inj handled).symm⟩)
  · next kind =>
      exact .inr (.inr ⟨(isField_iff node).mpr (.inl kind), (Option.some.inj handled).symm⟩)
  · next kind =>
      exact .inr (.inr ⟨(isField_iff node).mpr (.inr kind), (Option.some.inj handled).symm⟩)
  · next kind =>
      rw [(Markup.isElement_iff node).mpr (.inl kind)] at noElement
      cases noElement
  · next kind =>
      rw [(Markup.isElement_iff node).mpr (.inr kind)] at noElement
      cases noElement
  · cases handled

/-- A node without a handler binds nothing. -/
theorem isBinding_of_unhandled
    {options : ClassOptions}
    {node : Node}
    (unhandled : handlers options node.kind = none) :
    node.isBinding = false := by
  apply Node.isBinding_eq_false
  · intro kind
    rw [kind] at unhandled
    cases unhandled
  · intro kind
    rw [kind] at unhandled
    cases unhandled

theorem lookInside_of_unhandled
    {options : ClassOptions}
    {place : Occurrence}
    (unhandled : handlers options place.node.kind = none) :
    lookInside place = pure () := by
  unfold lookInside
  split <;> simp_all [handlers]

theorem lookInside_of_field
    {place : Occurrence}
    (field : isField place.node = true) :
    lookInside place = lookField place.node := by
  obtain kind | kind := (isField_iff place.node).mp field
  · simp only [lookInside, kind]
  · simp only [lookInside, kind]

/-- A class inside of a component is not looked at any more. -/
theorem lookInside_of_class
    {place : Occurrence}
    (isClass : isClass place.node = true) :
    lookInside place = pure () := by
  obtain kind | kind := (isClass_iff place.node).mp isClass
  · simp only [lookInside, kind]
    rfl
  · simp only [lookInside, kind]
    rfl

theorem lookInside_of_element
    {place : Occurrence}
    (element : Markup.isElement place.node = true) :
    lookInside place = Extracting.lookElement place.node := by
  obtain kind | kind := (Markup.isElement_iff place.node).mp element
  · simp only [lookInside, kind]
  · simp only [lookInside, kind]

/-- The walk inside of the component is the survey of the places there that are outside
of further classes and elements. -/
theorem surveys_inside
    (options : ClassOptions)
    (bindings : List (Option String))
    (name : String)
    (before : Log) :
    Surveys (handlers options) isBarrier (Scope.around ⟨bindings, true⟩) before
      (IsInside name) lookInside where
  kept := fun _ _ _ inside looked => (inside.counts_of_lookInside looked).1
  barred := by
    intro around node progress barred inside
    obtain isClass | element := (isBarrier_iff node).mp barred
    · have skipped : lookInside ⟨around, node⟩ = pure () := lookInside_of_class isClass
      rw [skipped]
      apply visit_agrees_of_prune (handlers_of_class isClass options) (Effect.ignores_pure _)
      exact enterClass_of_nameFound inside.nameFound
    · have looked : lookInside ⟨around, node⟩ = Extracting.lookElement node :=
        lookInside_of_element element
      rw [looked]
      apply visit_agrees_of_prune (handlers_of_element element options)
        (Extracting.ignores_lookElement node)
      exact enterElement_apply rfl
  passed := by
    intro around node progress unbarred unhandled
    have silent : lookInside ⟨around, node⟩ = pure () := lookInside_of_unhandled unhandled
    rw [silent]
    exact ⟨Scope.around_cons_of_other (isBinding_of_unhandled unhandled) _ _, rfl⟩
  entered := by
    intro around node handler progress unbarred handled inside
    obtain ⟨kind, rfl⟩ | ⟨kind, rfl⟩ | ⟨field, rfl⟩ := handlers_cases unbarred handled
    · simp only [lookInside, kind]
      exact enters_declarator kind _ around before progress
    · simp only [lookInside, kind]
      rw [enterAssignment_apply rfl]
      apply enters_of_agrees (Agrees.of_ignores (ignores_lookAssignment node) progress)
      intro after _
      exact enters_assignment kind _ around before after
    · have looked : lookInside ⟨around, node⟩ = lookField node := lookInside_of_field field
      rw [looked]
      exact enters_field field bindings around before progress

/-- A survey of the inside of a component records the first state and the first markup
there. -/
theorem survey_inside_ok
    {name : String}
    {places : List Occurrence}
    {progress later : Progress}
    (inside : IsInside name progress)
    (noState : progress.records.state = none)
    (noMarkup : progress.records.markup = none)
    (surveyed : forM places lookInside progress = (.ok (), later)) :
    IsInside name later ∧
      firstRead (fun place => givesState place.node) (fun place => readState place.node)
        places = .ok later.records.state ∧
      firstRead (fun place => Markup.isElement place.node)
        (fun place => Extracting.readMarkup place.node) places =
          .ok later.records.markup := by
  obtain ⟨insideLater, states⟩ := FirstWins.survey
    (fun place before after holds looked =>
      (holds.counts_of_lookInside looked).imp_right Counts.state)
    places progress later inside surveyed
  obtain ⟨-, elements⟩ := FirstWins.survey
    (fun place before after holds looked =>
      (holds.counts_of_lookInside looked).imp_right Counts.markup)
    places progress later inside surveyed
  rw [noState] at states
  rw [noMarkup] at elements
  exact ⟨insideLater, states, elements⟩

end Class
end ComponentOutline
