import ComponentOutline.Proofs.Component.ClassBody

/-!
# The component that a class declares

The places of a tree outside of classes and elements are surveyed in pre-order.  The
first class among them that extends a base component is the component, and what is
inside of it is surveyed in turn.  An extraction that returns has found exactly what the
first of these places give.
-/

namespace ComponentOutline

open Walk

namespace Class

/-! ## The survey of the outside -/

/-- Records a class as the component. -/
def lookName (node : Node) (binding : Option String) : Extracting Unit := do
  let name ← Extracting.ofExcept (nameOf node binding)
  Extracting.recordName .classDeclaration name

/-- A look at a class: the first component class is the component, and the places inside
of it are surveyed. -/
def lookClass (options : ClassOptions) (node : Node) (binding : Option String) :
    Extracting Unit := do
  let progress ← get
  if !progress.nameFound then
    let recognized ← Extracting.ofExcept (isComponent options node)
    if recognized then
      lookName node binding
      forM (node.reachedBelow isBarrier) lookInside

/-- A look at a place outside of classes and elements. -/
def look (options : ClassOptions) (place : Occurrence) : Extracting Unit :=
  match place.node.kind with
  | "class_declaration" => lookClass options place.node place.binding?
  | "class" => lookClass options place.node place.binding?
  | "variable_declarator" => Extracting.lookTarget "name" place.node
  | "assignment_expression" => Extracting.lookTarget "left" place.node
  | _ => pure ()

/-- What holds everywhere outside: the markup is recorded only for a component. -/
structure IsOutside (progress : Progress) : Prop where
  consistent : progress.Consistent
  markup_of_unnamed : progress.records.name = none → progress.records.markup = none

theorem isOutside_start (log : Log) : IsOutside (.start log) :=
  ⟨Progress.consistent_start log, fun _ => rfl⟩

/-- Leaving the component takes the mark of being in it away. -/
def leaveComponent : Extracting Unit :=
  modify fun progress => { progress with inComponent := false }

/-- A class is recorded and then entered with the mark of being in the component. -/
theorem enters_class
    {options : ClassOptions}
    {node : Node}
    {bindings : List (Option String)}
    {before : Log}
    {progress : Progress}
    (unnamed : progress.nameFound = false)
    (recognized : isComponent options node = .ok true) :
    Enters ⟨bindings, false⟩ ⟨bindings, true⟩ before
      (enterClass options node (progress.placed ⟨bindings, false⟩ before))
      (lookName node bindings.head?.join progress) := by
  have notYet : ¬(progress.placed ⟨bindings, false⟩ before).nameFound = true := by
    simp [unnamed]
  unfold enterClass lookName
  rw [Effect.bind_apply_of_ok _ (Effect.get_apply _), if_neg notYet, recognized,
    Effect.bind_apply_of_ok _ (Extracting.ofExcept_apply _ _), Bool.not_true,
    if_neg Bool.false_ne_true, Effect.bind_apply, Effect.bind_apply,
    Extracting.ofExcept_apply, Extracting.ofExcept_apply, Progress.placed_enclosingBinding]
  cases nameOf node bindings.head?.join with
  | error failure => exact .inr ⟨failure, progress, _, rfl, rfl⟩
  | ok name =>
      refine .inl ⟨.descendThen leaveComponent, _, rfl, ?_, Nat.one_ne_zero, fun later => rfl⟩
      simp only
      rw [Effect.bind_apply, Extracting.ignores_recordName]
      rfl

/-- A class that is no component is skipped. -/
theorem enterClass_of_other
    {options : ClassOptions}
    {node : Node}
    {progress : Progress}
    (unnamed : progress.nameFound = false)
    (other : isComponent options node = .ok false) :
    enterClass options node progress = (.ok .prune, progress) := by
  have notYet : ¬progress.nameFound = true := by
    simp [unnamed]
  unfold enterClass
  rw [Effect.bind_apply_of_ok _ (Effect.get_apply _), if_neg notYet, other]
  rfl

/-- A class whose heritage cannot be judged ends the walk, and nothing has been recorded. -/
theorem enterClass_of_error
    {options : ClassOptions}
    {node : Node}
    {failure : Failure}
    {progress : Progress}
    (unnamed : progress.nameFound = false)
    (failed : isComponent options node = .error failure) :
    enterClass options node progress = (.error failure, progress) := by
  have notYet : ¬progress.nameFound = true := by
    simp [unnamed]
  unfold enterClass
  rw [Effect.bind_apply_of_ok _ (Effect.get_apply _), if_neg notYet, failed]
  rfl

/-- A class that is entered has a name from now on, if only an empty one. -/
theorem lookName_ok
    {node : Node}
    {binding : Option String}
    {progress later : Progress}
    (consistent : progress.Consistent)
    (looked : lookName node binding progress = (.ok (), later)) :
    ∃ name,
      nameOf node binding = .ok name ∧ later.Consistent ∧
        later.records = { progress.records with name := some (name.getD "") } := by
  unfold lookName at looked
  obtain ⟨name, _, evaluated, looked⟩ := Effect.ok_of_bind_apply looked
  obtain ⟨read, rfl⟩ := Prod.mk.inj evaluated
  obtain ⟨consistentLater, records⟩ := Extracting.recordName_ok consistent looked
  exact ⟨name, read, consistentLater, records⟩

/-- Outside, a class becomes the component and shows what is inside of it, or it is
skipped. -/
theorem visit_class_agrees
    {options : ClassOptions}
    {node : Node}
    {bindings : List (Option String)}
    {before : Log}
    {progress : Progress}
    (isClass : isClass node = true)
    (outside : IsOutside progress) :
    Agrees ⟨bindings, false⟩ before
      (visit (handlers options) node (progress.placed ⟨bindings, false⟩ before))
      (lookClass options node bindings.head?.join progress) := by
  have handled := handlers_of_class isClass options
  unfold lookClass
  rw [Effect.bind_apply_of_ok _ (Effect.get_apply progress)]
  cases found : progress.nameFound with
  | true =>
      apply visit_agrees_of_prune handled (Effect.ignores_pure _)
      exact enterClass_of_nameFound found
  | false =>
      rw [Bool.not_false, if_pos rfl, Effect.bind_apply, Extracting.ofExcept_apply]
      cases judged : isComponent options node with
      | error failure =>
          have unnamed : (progress.placed ⟨bindings, false⟩ before).nameFound = false := found
          rw [visit_of_handled handled,
            Effect.bind_apply_of_error _ (enterClass_of_error unnamed judged)]
          exact .inr ⟨failure, progress, _, rfl, rfl⟩
      | ok recognized =>
          cases recognized with
          | false =>
              apply visit_agrees_of_prune handled (Effect.ignores_pure _)
              exact enterClass_of_other found judged
          | true =>
              apply visit_agrees_of_enters handled (enters_class found judged)
              intro after looked
              obtain ⟨name, _, consistent, records⟩ := lookName_ok outside.consistent looked
              have inside : IsInside (name.getD "") after := by
                refine ⟨consistent, ?_⟩
                rw [records]
              rw [Node.reachedBelow_eq_exposedIn]
              exact (surveys_inside options bindings (name.getD "") before).forM_agrees []
                node.children after inside

/-- The component that a class is. -/
def readClass (place : Occurrence) : Except Failure Records := do
  let name ← nameOf place.node place.binding?
  let inside := place.node.reachedBelow isBarrier
  let state ← firstRead (fun place => givesState place.node)
    (fun place => readState place.node) inside
  let markup ← firstRead (fun place => Markup.isElement place.node)
    (fun place => Extracting.readMarkup place.node) inside
  return ⟨some (name.getD ""), state, markup⟩

/-- A class is read off its name, the first state and the first markup inside. -/
theorem readClass_of_ok
    {place : Occurrence}
    {name : Option String}
    {state : Option (List StateEntry)}
    {markup : Option (List String × List Descriptor)}
    (named : nameOf place.node place.binding? = .ok name)
    (states : firstRead (fun place => givesState place.node)
      (fun place => readState place.node) (place.node.reachedBelow isBarrier) = .ok state)
    (elements : firstRead (fun place => Markup.isElement place.node)
      (fun place => Extracting.readMarkup place.node) (place.node.reachedBelow isBarrier) =
        .ok markup) :
    readClass place = .ok ⟨some (name.getD ""), state, markup⟩ := by
  simp only [readClass, named, states, elements]
  rfl

/-- What is recorded of the component, if there is one. -/
def recordedClass (progress : Progress) : Option Records :=
  progress.records.name.map fun _ => progress.records

/-- Whether a node is a class that extends a base component. -/
def isComponentClass (bases : List Text) (node : Node) : Bool :=
  isClass node &&
    match isComponent ⟨bases⟩ node with
    | .ok recognized => recognized
    | .error _ => false

/-- The judgement of the code on a class is the one of the specification. -/
theorem isComponentClass_of_judged
    {options : ClassOptions}
    {node : Node}
    {recognized : Bool}
    (isClass : isClass node = true)
    (judged : isComponent options node = .ok recognized) :
    isComponentClass options.bases node = recognized := by
  rw [isComponentClass, isClass, judged, Bool.true_and]

/-- What one look outside does to the records: a component class gives the component
unless there is one already. -/
theorem firstWins_of_lookClass
    {options : ClassOptions}
    {place : Occurrence}
    {progress later : Progress}
    (outside : IsOutside progress)
    (isClass : isClass place.node = true)
    (looked : lookClass options place.node place.binding? progress = (.ok (), later)) :
    IsOutside later ∧
      FirstWins (fun place => isComponentClass options.bases place.node) readClass [place]
        (recordedClass progress) (recordedClass later) := by
  unfold lookClass at looked
  rw [Effect.bind_apply_of_ok _ (Effect.get_apply progress), Progress.nameFound_eq] at looked
  cases found : progress.records.name with
  | some name =>
      rw [found] at looked
      cases looked
      have already : (recordedClass progress).isSome = true := by
        rw [recordedClass, found]
        rfl
      exact ⟨outside, .of_isSome already⟩
  | none =>
      rw [found] at looked
      obtain ⟨recognized, _, evaluated, looked⟩ := Effect.ok_of_bind_apply looked
      obtain ⟨judged, rfl⟩ := Prod.mk.inj evaluated
      have gives := isComponentClass_of_judged isClass judged
      cases recognized with
      | false =>
          cases looked
          exact ⟨outside, .of_not_gives gives⟩
      | true =>
          obtain ⟨_, middle, recorded, surveyed⟩ := Effect.ok_of_bind_apply looked
          obtain ⟨name, named, consistent, records⟩ := lookName_ok outside.consistent recorded
          have inside : IsInside (name.getD "") middle := by
            refine ⟨consistent, ?_⟩
            rw [records]
          have noState : middle.records.state = none := by
            rw [records]
            exact outside.consistent.state_of_unnamed found
          have noMarkup : middle.records.markup = none := by
            rw [records]
            exact outside.markup_of_unnamed found
          obtain ⟨insideLater, states, elements⟩ :=
            survey_inside_ok inside noState noMarkup surveyed
          have nothingYet : recordedClass progress = none := by
            rw [recordedClass, found]
            rfl
          have component : recordedClass later = some later.records := by
            rw [recordedClass, insideLater.2]
            rfl
          refine ⟨⟨insideLater.1, ?_⟩, ?_⟩
          · intro unnamed
            rw [insideLater.2] at unnamed
            cases unnamed
          · rw [nothingYet, component]
            have reads : readClass place = .ok later.records := by
              rw [readClass_of_ok named states elements, ← insideLater.2]
            exact .of_read gives reads

theorem isComponentClass_eq_false
    {node : Node}
    (other : isClass node = false)
    (bases : List Text) :
    isComponentClass bases node = false := by
  rw [isComponentClass, other, Bool.false_and]

/-- From outside of any component, a place counts exactly if it is the first component class. -/
theorem firstWins_of_look
    {options : ClassOptions}
    {place : Occurrence}
    {progress later : Progress}
    (outside : IsOutside progress)
    (looked : look options place progress = (.ok (), later)) :
    IsOutside later ∧
      FirstWins (fun place => isComponentClass options.bases place.node) readClass [place]
        (recordedClass progress) (recordedClass later) := by
  generalize looking : look options place = step at looked
  unfold look at looking
  split at looking
  · next kind =>
      subst looking
      exact firstWins_of_lookClass outside ((isClass_iff _).mpr (.inl kind)) looked
  · next kind =>
      subst looking
      exact firstWins_of_lookClass outside ((isClass_iff _).mpr (.inr kind)) looked
  · next kind =>
      subst looking
      cases Extracting.lookTarget_ok looked
      have other : isClass place.node = false := by
        simp [isClass, kind]
      exact ⟨outside, .of_not_gives (isComponentClass_eq_false other _)⟩
  · next kind =>
      subst looking
      cases Extracting.lookTarget_ok looked
      have other : isClass place.node = false := by
        simp [isClass, kind]
      exact ⟨outside, .of_not_gives (isComponentClass_eq_false other _)⟩
  · next noDeclaration noClass _ _ =>
      subst looking
      cases looked
      have other : isClass place.node = false := by
        simpa [isClass] using ⟨noDeclaration, noClass⟩
      exact ⟨outside, .of_not_gives (isComponentClass_eq_false other _)⟩

/-- Outside of the component an assignment only binds its target. -/
theorem enterAssignment_outside
    {node : Node}
    {progress : Progress}
    (outside : progress.inComponent = false) :
    enterAssignment node progress = Extracting.enterAssignment node progress := by
  unfold enterAssignment Extracting.enterAssignment
  rw [Effect.bind_apply, Effect.bind_apply, Extracting.ofExcept_apply]
  cases required : node.requireField "left" with
  | error failure => rfl
  | ok target =>
      simp only
      rw [Effect.bind_apply_of_ok _ (Effect.get_apply progress), outside, Bool.false_and,
        if_neg Bool.false_ne_true]
      rfl

/-- Outside of a component a field means nothing. -/
theorem enterField_outside
    {node : Node}
    {progress : Progress}
    (outside : progress.inComponent = false) :
    enterField node progress = (.ok .descend, progress) := by
  unfold enterField
  rw [Effect.bind_apply_of_ok _ (Effect.get_apply progress), outside, Bool.false_and,
    if_neg Bool.false_ne_true]
  rfl

theorem enterElement_outside
    {node : Node}
    {progress : Progress}
    (outside : progress.inComponent = false) :
    enterElement node progress = (.ok .prune, progress) := by
  unfold enterElement
  rw [Effect.bind_apply_of_ok _ (Effect.get_apply progress), outside,
    if_neg Bool.false_ne_true]
  rfl

/-- A field outside of the component is passed by. -/
theorem enters_field_outside
    {node : Node}
    (field : isField node = true)
    (around : List Node)
    (before : Log)
    (progress : Progress) :
    Enters (Scope.outermost.around around) (Scope.outermost.around (node :: around)) before
      (enterField node (progress.placed (Scope.outermost.around around) before))
      ((pure () : Extracting Unit) progress) := by
  rw [Scope.around_cons_of_other (isBinding_of_field field), enterField_outside rfl]
  exact .inl ⟨.descend, progress, rfl, rfl, Nat.one_ne_zero, fun later => rfl⟩

theorem look_of_class
    {place : Occurrence}
    (isClass : isClass place.node = true)
    (options : ClassOptions) :
    look options place = lookClass options place.node place.binding? := by
  obtain kind | kind := (isClass_iff place.node).mp isClass
  · simp only [look, kind]
  · simp only [look, kind]

theorem look_of_element
    {place : Occurrence}
    (element : Markup.isElement place.node = true)
    (options : ClassOptions) :
    look options place = pure () := by
  obtain kind | kind := (Markup.isElement_iff place.node).mp element
  · simp only [look, kind]
    rfl
  · simp only [look, kind]
    rfl

theorem look_of_field
    {place : Occurrence}
    (field : isField place.node = true)
    (options : ClassOptions) :
    look options place = pure () := by
  obtain kind | kind := (isField_iff place.node).mp field
  · simp only [look, kind]
    rfl
  · simp only [look, kind]
    rfl

theorem look_of_unhandled
    {options : ClassOptions}
    {place : Occurrence}
    (unhandled : handlers options place.node.kind = none) :
    look options place = pure () := by
  unfold look
  split <;> simp_all [handlers]

/-- The walk of the class pattern is the survey of the places outside of classes and
elements. -/
theorem surveys (options : ClassOptions) (before : Log) :
    Surveys (handlers options) isBarrier Scope.outermost.around before IsOutside
      (look options) where
  kept := fun _ _ _ outside looked => (firstWins_of_look outside looked).1
  barred := by
    intro around node progress barred outside
    obtain isClass | element := (isBarrier_iff node).mp barred
    · have looked : look options ⟨around, node⟩ = _ := look_of_class isClass options
      rw [looked, Occurrence.binding?_eq_head]
      exact visit_class_agrees isClass outside
    · have looked : look options ⟨around, node⟩ = pure () := look_of_element element options
      rw [looked]
      apply visit_agrees_of_prune (handlers_of_element element options)
        (Effect.ignores_pure _)
      exact enterElement_outside rfl
  passed := by
    intro around node progress unbarred unhandled
    have silent : look options ⟨around, node⟩ = pure () := look_of_unhandled unhandled
    rw [silent]
    exact ⟨Scope.around_cons_of_other (isBinding_of_unhandled unhandled) _ _, rfl⟩
  entered := by
    intro around node handler progress unbarred handled outside
    obtain ⟨kind, rfl⟩ | ⟨kind, rfl⟩ | ⟨field, rfl⟩ := handlers_cases unbarred handled
    · simp only [look, kind]
      exact enters_declarator kind _ around before progress
    · simp only [look, kind]
      rw [enterAssignment_outside rfl]
      exact enters_assignment kind _ around before progress
    · have passed : look options ⟨around, node⟩ = pure () := look_of_field field options
      rw [passed]
      exact enters_field_outside field around before progress

/-- An extraction that returns has recorded the first component class of the places
outside of classes and elements. -/
theorem extract_ok
    {options : ClassOptions}
    {root : Node}
    {log : Log}
    {progress : Progress}
    (extracted : extract options root (.start log) = (.ok (), progress)) :
    IsOutside progress ∧
      firstRead (fun place => isComponentClass options.bases place.node) readClass
        (root.reached isBarrier) = .ok (recordedClass progress) := by
  obtain ⟨later, surveyed, findings⟩ :=
    Surveys.survey_of_extract (surveys options) rfl (isOutside_start []) extracted
  obtain ⟨outside, classes⟩ := FirstWins.survey
    (fun place before after outside looked => firstWins_of_look outside looked)
    _ _ _ (isOutside_start []) surveyed
  have records := Progress.records_eq_of_findings findings
  refine ⟨⟨outside.consistent.of_findings findings, ?_⟩, ?_⟩
  · rw [records]
    exact outside.markup_of_unnamed
  · rw [recordedClass, records]
    exact classes

/-! ## The outline -/

/-- The name of a component class: its own, or for a class without one the name that is
bound around it. -/
def HasName (place : Occurrence) (name : String) : Prop :=
  match place.node.child? "name" with
  | some nameNode => nameNode.text = .ok name
  | none => place.node.kind = "class" ∧ name = place.binding?.getD ""

/-- A state is that of the initializer which a place holds; without a place it is
empty. -/
def IsStateOf (state : List StateEntry) : Option Occurrence → Prop
  | none => state = []
  | some place =>
      ∃ initializer,
        initializer? place.node = some initializer ∧
          Literal.componentState initializer = .ok state

/-- The outline of the component that a tree declares by the first component class
outside of classes and elements; without one it is empty. -/
def Describes (bases : List Text) (root : Node) (descriptor : Descriptor) : Prop :=
  match (root.reached isBarrier).find? fun place => isComponentClass bases place.node with
  | none => descriptor = .empty
  | some component =>
      let inside := component.node.reachedBelow isBarrier
      HasName component descriptor.name ∧
        IsStateOf descriptor.state (inside.find? fun place => givesState place.node) ∧
        descriptor.HasMarkupOf
          ((inside.find? fun place => Markup.isElement place.node).map Occurrence.node)

/-- A class has one name only. -/
theorem HasName.unique
    {place : Occurrence}
    {name other : String}
    (has : HasName place name)
    (hasToo : HasName place other) :
    name = other := by
  unfold HasName at has hasToo
  cases found : place.node.child? "name" with
  | some nameNode =>
      simp only [found] at has hasToo
      exact Except.ok.inj (has.symm.trans hasToo)
  | none =>
      simp only [found] at has hasToo
      exact has.2.trans hasToo.2.symm

/-- A place determines the state. -/
theorem IsStateOf.unique
    {state other : List StateEntry}
    {place : Option Occurrence}
    (isState : IsStateOf state place)
    (isStateToo : IsStateOf other place) :
    state = other := by
  cases place with
  | none => exact isState.trans isStateToo.symm
  | some place =>
      obtain ⟨initializer, held, read⟩ := isState
      obtain ⟨_, heldToo, readToo⟩ := isStateToo
      cases held.symm.trans heldToo
      exact Except.ok.inj (read.symm.trans readToo)

/-- A tree determines the outline of its component. -/
theorem Describes.unique
    {bases : List Text}
    {root : Node}
    {descriptor other : Descriptor}
    (describes : Describes bases root descriptor)
    (describesToo : Describes bases root other) :
    descriptor = other := by
  unfold Describes at describes describesToo
  cases found : (root.reached isBarrier).find? fun place =>
      isComponentClass bases place.node with
  | none =>
      simp only [found] at describes describesToo
      exact describes.trans describesToo.symm
  | some component =>
      simp only [found] at describes describesToo
      obtain ⟨name, state, markup⟩ := describes
      obtain ⟨nameToo, stateToo, markupToo⟩ := describesToo
      exact Descriptor.eq_of_parts (name.unique nameToo) (state.unique stateToo)
        (markup.unique markupToo)

/-- The name that the code finds is the one that the class has. -/
theorem hasName_of_nameOf
    {place : Occurrence}
    {name : Option String}
    (isClass : isClass place.node = true)
    (named : nameOf place.node place.binding? = .ok name) :
    HasName place (name.getD "") := by
  unfold nameOf at named
  unfold HasName
  split at named
  · obtain ⟨nameNode, required, named⟩ := Effect.ok_of_except_bind named
    obtain ⟨text, read, rfl⟩ := Effect.ok_of_except_map named
    rw [Node.child?_of_requireField required]
    exact Node.readText_eq_ok_iff.mp read
  · next noDeclaration =>
      cases found : place.node.child? "name" with
      | some nameNode =>
          rw [found] at named
          obtain ⟨text, read, rfl⟩ := Effect.ok_of_except_map named
          exact Node.readText_eq_ok_iff.mp read
      | none =>
          rw [found] at named
          cases named
          obtain declaration | kind := (isClass_iff place.node).mp isClass
          · rw [declaration] at noDeclaration
            exact absurd rfl noDeclaration
          · exact ⟨kind, rfl⟩

/-- The first state that is read is the one at the first place that gives any. -/
theorem isStateOf_of_firstRead
    {places : List Occurrence}
    {state : Option (List StateEntry)}
    (first : firstRead (fun place => givesState place.node)
      (fun place => readState place.node) places = .ok state) :
    IsStateOf (state.getD []) (places.find? fun place => givesState place.node) := by
  unfold firstRead at first
  cases found : places.find? fun place => givesState place.node with
  | none =>
      simp only [found] at first
      cases first
      exact rfl
  | some place =>
      simp only [found] at first
      obtain ⟨entries, read, rfl⟩ := Effect.ok_of_except_map first
      unfold readState at read
      cases held : initializer? place.node with
      | none =>
          rw [held] at read
          cases read
      | some initializer =>
          rw [held] at read
          exact ⟨initializer, held, read⟩

/-- Base classes that are given take the place of those in the settings. -/
theorem ofValue_of_given
    {bases : List Text}
    (someBases : bases ≠ [])
    (settings : Settings) :
    ClassOptions.ofValue (.list (bases.map .text)) settings = .ok ⟨bases⟩ := by
  have basesGiven : (Value.list (bases.map .text)).isTruthy = true := by
    simp [Value.isTruthy, someBases]
  simp only [ClassOptions.ofValue, basesGiven, if_true, Value.names_texts]
  rfl

/-- An extraction that returns has found the component of the first component class, with
the state and the markup from inside of it. -/
theorem describes_of_extract_ok
    {bases : List Text}
    {root : Node}
    {log : Log}
    {progress : Progress}
    (extracted : extract ⟨bases⟩ root (.start log) = (.ok (), progress)) :
    Describes bases root progress.descriptor := by
  obtain ⟨outside, classes⟩ := extract_ok extracted
  have outline := outside.consistent.descriptor_eq
  unfold firstRead at classes
  unfold Describes
  cases found : (root.reached isBarrier).find? fun place =>
      isComponentClass bases place.node with
  | none =>
      simp only [found] at classes
      have unnamed : progress.records.name = none :=
        Option.map_eq_none_iff.mp (Except.ok.inj classes).symm
      have noState := outside.consistent.state_of_unnamed unnamed
      have noMarkup := outside.markup_of_unnamed unnamed
      simp only
      rw [outline, Records.descriptor, unnamed, noState, noMarkup]
      rfl
  | some component =>
      simp only [found] at classes
      obtain ⟨records, read, recorded⟩ := Effect.ok_of_except_map classes
      obtain ⟨name, named, read⟩ := Effect.ok_of_except_bind read
      obtain ⟨state, states, read⟩ := Effect.ok_of_except_bind read
      obtain ⟨markup, elements, read⟩ := Effect.ok_of_except_bind read
      cases read
      obtain ⟨_, _, held⟩ := Option.map_eq_some_iff.mp recorded.symm
      have isComponent := List.find?_some found
      have isClass : isClass component.node = true := by
        rw [isComponentClass, Bool.and_eq_true] at isComponent
        exact isComponent.1
      refine ⟨?_, ?_, ?_⟩
      · rw [outline, held]
        exact hasName_of_nameOf isClass named
      · rw [outline, held]
        exact isStateOf_of_firstRead states
      · apply outside.consistent.hasMarkupOf_first
        rw [held]
        exact elements

/-- Whenever an extraction with given base components returns, its outline is the one of
the first component class. -/
theorem describes_iff_extracted_class
    {bases : List Text}
    {settings : Settings}
    {options : ClassOptions}
    {root : Node}
    {log : Log}
    {progress : Progress}
    (someBases : bases ≠ [])
    (given : ClassOptions.ofValue (.list (bases.map .text)) settings = .ok options)
    (extracted : extract options root (.start log) = (.ok (), progress)) :
    ∀ descriptor,
      Describes bases root descriptor ↔ descriptor = progress.descriptor := by
  rw [ofValue_of_given someBases] at given
  cases given
  have describes := describes_of_extract_ok extracted
  intro descriptor
  constructor
  · intro describesToo
    exact describesToo.unique describes
  · rintro rfl
    exact describes

/-- The tree of `class A extends B {state = {n: null}}`. -/
def sampleTree : Node :=
  .ofText "class_declaration" none "class A extends B {state = {n: null}}" [
    .ofText "identifier" (some "name") "A" [],
    .ofText "class_heritage" none "extends B" [
      .ofText "identifier" none "B" []],
    .ofText "class_body" (some "body") "{state = {n: null}}" [
      .ofText "field_definition" none "state = {n: null}" [
        .ofText "property_identifier" (some "property") "state" [],
        .ofText "object" (some "value") "{n: null}" [
          .ofText "pair" none "n: null" [
            .ofText "property_identifier" (some "key") "n" [],
            .ofText "null" (some "value") "null" []]]]]]

/-- A class with a state and no markup, as it is described and as it is extracted. -/
theorem describes_iff_extracted_class_sampleTree :
    ∃ progress,
      extract ⟨[Text.ofString "B"]⟩ sampleTree (.start []) = (.ok (), progress) ∧
        progress.descriptor = .mk "A" [⟨Text.ofString "n", .null⟩] [] [] ∧
        Describes [Text.ofString "B"] sampleTree progress.descriptor := by
  have extracted :
      extract ⟨[Text.ofString "B"]⟩ sampleTree (.start []) =
        (.ok (), (extract ⟨[Text.ofString "B"]⟩ sampleTree (.start [])).2) := by
    rw [extract, Extracting.extract, run_eq_visit]
    rfl
  have given :
      ClassOptions.ofValue (.list ([Text.ofString "B"].map .text)) Settings.default =
        .ok ⟨[Text.ofString "B"]⟩ := rfl
  refine ⟨_, extracted, ?_, ?_⟩
  · rw [extract, Extracting.extract, run_eq_visit]
    rfl
  · exact (describes_iff_extracted_class (List.cons_ne_nil _ _) given extracted _).mpr rfl

end Class
end ComponentOutline
