import ComponentOutline.Proofs.Component.Class
import ComponentOutline.Proofs.Component.Failure

/-!
# How the search for a component class fails

The search comes to the places outside of classes and elements, and at the first
component class to the places inside of it.  Up to that class, every class with an
`extends` clause has to have a value in it, and the component has to have a name if it is
declared.  Inside of the component the first node that gives the state fails as reading
the state does.  Bindings have to have a target everywhere.  The search ends with the
first of these failures.
-/

namespace ComponentOutline

open Walk

namespace Class

/-- A node that the search comes to, inside of the component or outside of it. -/
structure Stop where
  node : Node
  inside : Bool

/-- A stop outside of the component. -/
def Stop.outside (place : Occurrence) : Stop :=
  ⟨place.node, false⟩

/-- A stop inside of the component. -/
def Stop.within (place : Occurrence) : Stop :=
  ⟨place.node, true⟩

/-- Whether a stop gives the state of the component. -/
def Stop.isTrigger (stop : Stop) : Bool :=
  stop.inside && givesState stop.node

/-- The stops at places outside of classes and elements, in pre-order: the first component
class is gone into. -/
def stops (bases : List Text) : List Occurrence → List Stop
  | [] => []
  | place :: rest =>
      if isComponentClass bases place.node then
        .outside place ::
          ((place.node.reachedBelow isBarrier).map .within ++ rest.map .outside)
      else .outside place :: stops bases rest

/-- Behind the first component class all places are outside of it. -/
theorem stops_append (bases : List Text) (front back : List Occurrence) :
    stops bases (front ++ back) =
      stops bases front ++
        if front.any fun place => isComponentClass bases place.node then back.map .outside
        else stops bases back := by
  induction front with
  | nil => rfl
  | cons place rest inductionHypothesis =>
      rw [List.cons_append, stops, stops, List.any_cons]
      split
      · next component => simp [component]
      · next other =>
          rw [Bool.not_eq_true] at other
          rw [inductionHypothesis, other]
          rfl

/-- Stops of two stretches keep the order of their nodes. -/
theorem stops_append_sublist
    {bases : List Text}
    {front back : List Occurrence}
    {first second : List Node}
    (frontStops : ((stops bases front).map Stop.node).Sublist first)
    (backPlaces : (back.map Occurrence.node).Sublist second)
    (backStops : ((stops bases back).map Stop.node).Sublist second) :
    ((stops bases (front ++ back)).map Stop.node).Sublist (first ++ second) := by
  rw [stops_append, List.map_append]
  apply frontStops.append
  split
  · rw [List.map_map]
    exact backPlaces
  · exact backStops

/-- What lets the walk pass is no component. -/
theorem isComponentClass_of_open
    {node : Node}
    (unbarred : isBarrier node = false)
    (bases : List Text) :
    isComponentClass bases node = false := by
  cases isClass : isClass node with
  | false => rw [isComponentClass, isClass, Bool.false_and]
  | true =>
      rw [(isBarrier_iff node).mpr (.inl isClass)] at unbarred
      cases unbarred

mutual

/-- The stops of a search are in pre-order. -/
theorem stops_exposed_sublist (bases : List Text) (around : List Node) :
    (node : Node) →
      ((stops bases (Node.exposed isBarrier around node)).map Stop.node).Sublist node.preorder
  | .mk label children => by
      cases barred : isBarrier (.mk label children) with
      | true =>
          rw [Node.exposed_of_barrier barred, Node.preorder, stops]
          split
          · rw [List.map_cons, List.map_nil, List.append_nil, List.map_map,
              Node.reachedBelow_eq_exposedIn]
            exact (Node.exposedIn_sublist isBarrier [] children).cons_cons _
          · exact (List.nil_sublist _).cons_cons _
      | false =>
          rw [Node.exposed_of_open barred, Node.preorder, stops,
            if_neg (by simp [isComponentClass_of_open barred])]
          exact (stops_exposedIn_sublist bases _ children).cons_cons _

/-- The stops among some nodes come in the order in which the nodes are written. -/
theorem stops_exposedIn_sublist (bases : List Text) (around : List Node) :
    (nodes : List Node) →
      ((stops bases (Node.exposedIn isBarrier around nodes)).map Stop.node).Sublist
        (Node.preorderAll nodes)
  | [] => List.Sublist.slnil
  | node :: rest => by
      rw [Node.exposedIn, Node.preorderAll]
      apply stops_append_sublist
      · split
        · exact stops_exposed_sublist bases around node
        · exact List.nil_sublist _
      · exact Node.exposedIn_sublist isBarrier around rest
      · exact stops_exposedIn_sublist bases around rest

end

/-- All stops of a tree come in its pre-order, so that each node is a stop once at most. -/
theorem stops_sublist (bases : List Text) (root : Node) :
    ((stops bases (root.reached isBarrier)).map Stop.node).Sublist root.preorder := by
  rw [Node.reached_eq_exposed]
  exact stops_exposed_sublist bases [] root

/-! ## Failures -/

/-- The `extends` clause in the heritage of a class. -/
def extendsClause? (node : Node) : Option Node :=
  (node.namedChildren.find? fun child => child.kind == "class_heritage").bind fun heritage =>
    heritage.contents.find? fun clause => clause.kind == "extends_clause"

/-- The failure of a class whose `extends` clause has no value. -/
def heritageFailure? (node : Node) : Option Failure :=
  (extendsClause? node).bind fun clause => clause.unusable? "value"

/-- The failure of a component that is declared without a name. -/
def nameFailure? (node : Node) : Option Failure :=
  if node.kind = "class_declaration" then node.unusable? "name" else none

/-- The failure of a class that no component comes before. -/
def classFailure? (bases : List Text) (node : Node) : Option Failure :=
  (heritageFailure? node).or (if isComponentClass bases node then nameFailure? node else none)

/-- The failure of a node that gives the state: an assignment has to have a right side,
and the state has to be read. -/
def stateFailure? (node : Node) : Option Failure :=
  (if node.kind = "assignment_expression" then node.unusable? "right" else none).or
    (failureOf (readState node))

/-- The failure of the first stop that gives the state. -/
def triggerFailure? (before : List Stop) (stop : Stop) : Option Failure :=
  if stop.isTrigger && !before.any Stop.isTrigger then stateFailure? stop.node else none

/-- Whether there is a component class among some stops. -/
def hasComponent (bases : List Text) (stops : List Stop) : Bool :=
  stops.any fun stop => isComponentClass bases stop.node

/-- The failure of a stop, after the stops before it. -/
def failure? (options : ClassOptions) (before : List Stop) (stop : Stop) : Option Failure :=
  match stop.node.kind with
  | "variable_declarator" => stop.node.unusable? "name"
  | "assignment_expression" =>
      (stop.node.unusable? "left").or (triggerFailure? before stop)
  | "field_definition" => triggerFailure? before stop
  | "public_field_definition" => triggerFailure? before stop
  | "class_declaration" =>
      if hasComponent options.bases before then none
      else classFailure? options.bases stop.node
  | "class" =>
      if hasComponent options.bases before then none
      else classFailure? options.bases stop.node
  | _ => none

/-- Before there is a component, a class fails on its own heritage or name; afterwards never. -/
theorem failure?_of_class
    {stop : Stop}
    (isClass : isClass stop.node = true)
    (options : ClassOptions)
    (before : List Stop) :
    failure? options before stop =
      if hasComponent options.bases before then none
      else classFailure? options.bases stop.node := by
  obtain kind | kind := (isClass_iff stop.node).mp isClass
  · simp only [failure?, kind]
  · simp only [failure?, kind]

theorem failure?_of_field
    {stop : Stop}
    (field : isField stop.node = true)
    (options : ClassOptions)
    (before : List Stop) :
    failure? options before stop = triggerFailure? before stop := by
  obtain kind | kind := (isField_iff stop.node).mp field
  · simp only [failure?, kind]
  · simp only [failure?, kind]

theorem failure?_of_element
    {stop : Stop}
    (element : Markup.isElement stop.node = true)
    (options : ClassOptions)
    (before : List Stop) :
    failure? options before stop = none := by
  obtain kind | kind := (Markup.isElement_iff stop.node).mp element
  · simp only [failure?, kind]
    rfl
  · simp only [failure?, kind]
    rfl

theorem failure?_of_unhandled
    {options : ClassOptions}
    {stop : Stop}
    (unhandled : handlers options stop.node.kind = none)
    (before : List Stop) :
    failure? options before stop = none := by
  unfold failure?
  split <;> simp_all [handlers]

theorem triggerFailure?_outside (before : List Stop) (place : Occurrence) :
    triggerFailure? before (.outside place) = none := rfl

/-! ## Looks inside of the component -/

/-- A target that can be read is judged. -/
theorem isThisState_eq
    {target : Node}
    (readable : target.IsReadable) :
    isThisState target = .ok (isStateTarget target) := by
  have judged : ∃ isState, isThisState target = .ok isState := by
    unfold isThisState
    split
    · split
      · next object property held named =>
          obtain ⟨text, read⟩ := Node.IsReadable.readText (readable.of_child? named)
          rw [read]
          split
          · exact ⟨_, rfl⟩
          · exact ⟨_, rfl⟩
      · exact ⟨false, rfl⟩
    · exact ⟨false, rfl⟩
  obtain ⟨isState, judged⟩ := judged
  rw [isStateTarget_of_isThisState judged, judged]

/-- The failure of a node that gives the state unless it is known already. -/
def pendingFailure? (stateFound : Bool) (node : Node) : Option Failure :=
  if givesState node && !stateFound then stateFailure? node else none

/-- An assignment ends on an unusable target, or else on the state that is still to be read. -/
theorem lookAssignment_ends
    {node : Node}
    (readable : node.IsReadable)
    (kind : node.kind = "assignment_expression")
    (progress : Progress) :
    (lookAssignment node progress).1 =
      endedBy ((node.unusable? "left").or (pendingFailure? progress.stateFound node)) := by
  unfold lookAssignment pendingFailure?
  rw [Effect.bind_apply, Extracting.ofExcept_apply]
  obtain ⟨target, held, required, usable⟩ | ⟨failure, required, unusable⟩ :=
    node.requireField_cases "left"
  · rw [required, usable, Option.none_or, givesState_of_assignment kind, held,
      Option.any_some]
    simp only
    rw [Effect.bind_apply_of_ok _ (Effect.get_apply progress)]
    cases progress.stateFound with
    | true => simp [endedBy]
    | false =>
        simp only [Bool.not_false, if_true, Bool.and_true]
        rw [Effect.bind_apply, Extracting.ofExcept_apply,
          isThisState_eq (readable.of_child? held)]
        cases isStateTarget target with
        | false => rfl
        | true =>
            simp only [if_true]
            rw [Effect.bind_apply, Extracting.ofExcept_apply, stateFailure?, if_pos kind]
            obtain ⟨right, heldRight, requiredRight, usableRight⟩ |
              ⟨failure, requiredRight, unusableRight⟩ := node.requireField_cases "right"
            · have reads : readState node = Literal.componentState right := by
                rw [readState, initializer?, if_pos kind, heldRight]
              rw [requiredRight, usableRight, Option.none_or, reads]
              exact Extracting.recordState_ends right progress
            · rw [requiredRight, unusableRight]
              rfl
  · rw [required, unusable]
    rfl

theorem lookField_ends
    {node : Node}
    (readable : node.IsReadable)
    (field : isField node = true)
    (progress : Progress) :
    (lookField node progress).1 =
      endedBy (pendingFailure? progress.stateFound node) := by
  have noAssignment : node.kind ≠ "assignment_expression" := by
    obtain kind | kind := (isField_iff node).mp field <;> simp [kind]
  unfold lookField pendingFailure?
  rw [Effect.bind_apply_of_ok _ (Effect.get_apply progress), givesState_of_field field]
  cases progress.stateFound with
  | true => simp [endedBy]
  | false =>
      simp only [Bool.not_false, if_true, Bool.and_true]
      cases valued : node.child? "value" with
      | none => rfl
      | some value =>
          cases named : fieldName? node with
          | none => rfl
          | some nameNode =>
              have readableName : nameNode.IsReadable := by
                unfold fieldName? at named
                split at named
                · next property held =>
                    cases named
                    exact readable.of_child? held
                · exact readable.of_child? named
              obtain ⟨name, read⟩ := readableName.readText
              have reads : readState node = Literal.componentState value := by
                rw [readState, initializer?, if_neg noAssignment, valued]
              simp only [Option.isSome_some, Bool.true_and, Option.any_some,
                Node.hasText_of_readText read]
              rw [Effect.bind_apply, Extracting.ofExcept_apply, read, stateFailure?,
                if_neg noAssignment, Option.none_or, reads]
              simp only
              cases name == "state" with
              | false => rfl
              | true => exact Extracting.recordState_ends value progress

/-- What is known inside of the component after some stops: the component is among them,
and whether one of them gave the state. -/
structure IsWithin
    (bases : List Text)
    (name : String)
    (before : List Stop)
    (progress : Progress) : Prop where
  inside : IsInside name progress
  hasComponent : hasComponent bases before = true
  stateFound_eq : progress.stateFound = before.any Stop.isTrigger

/-- Within a component, what went before tells whether a state is still to be read. -/
theorem IsWithin.triggerFailure?_eq
    {bases : List Text}
    {name : String}
    {before : List Stop}
    {progress : Progress}
    (isWithin : IsWithin bases name before progress)
    (place : Occurrence) :
    triggerFailure? before (.within place) =
      pendingFailure? progress.stateFound place.node := by
  rw [triggerFailure?, pendingFailure?, isWithin.stateFound_eq]
  rfl

/-- Within a component, a place ends as it is foreseen. -/
theorem IsWithin.lookInside_ends
    {options : ClassOptions}
    {name : String}
    {before : List Stop}
    {place : Occurrence}
    {progress : Progress}
    (isWithin : IsWithin options.bases name before progress)
    (readable : place.node.IsReadable) :
    (lookInside place progress).1 = endedBy (failure? options before (.within place)) := by
  have pending := isWithin.triggerFailure?_eq place
  by_cases handled : handlers options place.node.kind = none
  · rw [lookInside_of_unhandled handled, failure?_of_unhandled handled]
    rfl
  · obtain ⟨handler, handled⟩ := Option.ne_none_iff_exists'.mp handled
    cases barred : isBarrier place.node with
    | true =>
        obtain isClass | element := (isBarrier_iff place.node).mp barred
        · rw [lookInside_of_class isClass, failure?_of_class isClass, isWithin.hasComponent]
          rfl
        · obtain ⟨later, looked⟩ := Extracting.lookElement_returns readable progress
          rw [lookInside_of_element element, failure?_of_element element, looked]
          rfl
    | false =>
        obtain ⟨kind, -⟩ | ⟨kind, -⟩ | ⟨field, -⟩ := handlers_cases barred handled
        · simp only [lookInside, failure?, Stop.within, kind]
          exact Extracting.lookTarget_ends readable "name" progress
        · have failure : failure? options before (.within place) =
              ((place.node.unusable? "left").or
                (pendingFailure? progress.stateFound place.node)).or none := by
            rw [← pending, Option.or_none]
            simp only [failure?, Stop.within, kind]
          simp only [lookInside, kind]
          rw [failure]
          apply Extracting.bind_ends (lookAssignment_ends readable kind progress)
          intro later looked
          have ended := lookAssignment_ends readable kind progress
          rw [Extracting.lookTarget_ends readable]
          cases usable : place.node.unusable? "left" with
          | none => rfl
          | some failure =>
              rw [looked, usable] at ended
              cases ended
        · have looked : lookInside place = lookField place.node := lookInside_of_field field
          rw [looked, failure?_of_field field, pending]
          exact lookField_ends readable field progress

/-- Within a component, a place that passes is one more of those before. -/
theorem IsWithin.lookInside_kept
    {bases : List Text}
    {name : String}
    {before : List Stop}
    {place : Occurrence}
    {progress later : Progress}
    (isWithin : IsWithin bases name before progress)
    (looked : lookInside place progress = (.ok (), later)) :
    IsWithin bases name (before ++ [.within place]) later := by
  obtain ⟨inside, counts⟩ := isWithin.inside.counts_of_lookInside looked
  have recorded := counts.state.isSome_eq
  rw [← Progress.stateFound_eq, ← Progress.stateFound_eq, isWithin.stateFound_eq] at recorded
  refine ⟨inside, ?_, ?_⟩
  · rw [Class.hasComponent, List.any_append, ← Class.hasComponent, isWithin.hasComponent,
      Bool.true_or]
  · rw [recorded, List.any_append]
    rfl

/-! ## Looks outside of the component -/

/-- A class that can be read is judged, or its `extends` clause has no value. -/
theorem isComponent_cases
    {node : Node}
    (readable : node.IsReadable)
    (isClass : isClass node = true)
    (options : ClassOptions) :
    (isComponent options node = .ok (isComponentClass options.bases node) ∧
      heritageFailure? node = none) ∨
    ∃ failure,
      isComponent options node = .error failure ∧ heritageFailure? node = some failure := by
  have judge : ∀ base : Option Node, superclass node = .ok base →
      (∀ found, base = some found → found.IsReadable) →
        isComponent options node = .ok (isComponentClass options.bases node) := by
    intro base extended readableBase
    have judged : ∃ recognized, isComponent options node = .ok recognized := by
      rw [isComponent, extended]
      cases base with
      | none => exact ⟨false, rfl⟩
      | some found =>
          have readableFound := readableBase found rfl
          change ∃ recognized, (if found.kind == "member_expression" then _ else _) = _
          split
          · cases held : found.child? "property" with
            | none => exact ⟨false, rfl⟩
            | some property =>
                obtain ⟨name, read⟩ :=
                  Node.IsReadable.readText (readableFound.of_child? held)
                simp only [read]
                exact ⟨_, rfl⟩
          · obtain ⟨name, read⟩ := readableFound.readText
            rw [read]
            exact ⟨_, rfl⟩
    obtain ⟨recognized, judged⟩ := judged
    rw [isComponentClass_of_judged isClass judged, judged]
  unfold heritageFailure? extendsClause?
  cases inherited : node.namedChildren.find? fun child => child.kind == "class_heritage" with
  | none =>
      refine .inl ⟨judge none ?_ nofun, rfl⟩
      rw [superclass, inherited]
  | some heritage =>
      have readableHeritage : heritage.IsReadable :=
        readable.of_mem_namedChildren (List.mem_of_find?_eq_some inherited)
      rw [Option.bind_some]
      cases clauses : heritage.contents.find? fun clause => clause.kind == "extends_clause" with
      | none =>
          cases first : heritage.contents.head? with
          | none =>
              refine .inl ⟨judge none ?_ nofun, rfl⟩
              simp only [superclass, inherited, clauses, first]
          | some clause =>
              have readableClause : clause.IsReadable :=
                readableHeritage.of_mem_contents (List.mem_of_mem_head? first)
              cases implements : clause.kind == "implements_clause" with
              | true =>
                  refine .inl ⟨judge none ?_ nofun, rfl⟩
                  simp only [superclass, inherited, clauses, first, implements, if_true]
              | false =>
                  refine .inl ⟨judge (some clause) ?_ ?_, rfl⟩
                  · simp only [superclass, inherited, clauses, first, implements,
                      Bool.false_eq_true, if_false]
                  · rintro found ⟨⟩
                    exact readableClause
      | some clause =>
          have readableClause : clause.IsReadable :=
            readableHeritage.of_mem_contents (List.mem_of_find?_eq_some clauses)
          rw [Option.bind_some]
          obtain ⟨value, held, required, usable⟩ | ⟨failure, required, unusable⟩ :=
            clause.requireField_cases "value"
          · refine .inl ⟨judge (some value) ?_ ?_, usable⟩
            · simp only [superclass, inherited, clauses, required]
              rfl
            · rintro found ⟨⟩
              exact readableClause.of_child? held
          · refine .inr ⟨failure, ?_, unusable⟩
            simp only [isComponent, superclass, inherited, clauses, required]
            rfl

theorem lookName_ends
    {node : Node}
    (readable : node.IsReadable)
    (binding : Option String)
    (progress : Progress) :
    (lookName node binding progress).1 = endedBy (nameFailure? node) := by
  unfold lookName nameOf nameFailure?
  rw [Effect.bind_apply, Extracting.ofExcept_apply]
  by_cases declared : node.kind = "class_declaration"
  · rw [if_pos (by simp [declared]), if_pos declared]
    obtain ⟨nameNode, held, required, usable⟩ | ⟨failure, required, unusable⟩ :=
      node.requireField_cases "name"
    · obtain ⟨name, read⟩ := Node.IsReadable.readText (readable.of_child? held)
      rw [required, usable]
      simp only [bind, Except.bind, read]
      rfl
    · rw [required, unusable]
      rfl
  · rw [if_neg (by simp [declared]), if_neg declared]
    cases held : node.child? "name" with
    | none => rfl
    | some nameNode =>
        obtain ⟨name, read⟩ := Node.IsReadable.readText (readable.of_child? held)
        simp only [read]
        rfl

/-- What is known outside of the component after some stops: whether it is among them. -/
structure IsWithout (bases : List Text) (before : List Stop) (progress : Progress) : Prop where
  outside : IsOutside progress
  nameFound_eq : progress.nameFound = hasComponent bases before

/-- A place outside that is not the component ends with its failure. -/
theorem IsWithout.look_ends
    {options : ClassOptions}
    {before : List Stop}
    {place : Occurrence}
    {progress : Progress}
    (isWithout : IsWithout options.bases before progress)
    (readable : place.node.IsReadable)
    (other : progress.nameFound = true ∨
      isComponentClass options.bases place.node = false) :
    (look options place progress).1 = endedBy (failure? options before (.outside place)) := by
  have noTrigger := triggerFailure?_outside before place
  by_cases handled : handlers options place.node.kind = none
  · rw [look_of_unhandled handled, failure?_of_unhandled handled]
    rfl
  · obtain ⟨handler, handled⟩ := Option.ne_none_iff_exists'.mp handled
    cases barred : isBarrier place.node with
    | true =>
        obtain isClass | element := (isBarrier_iff place.node).mp barred
        · rw [look_of_class isClass, failure?_of_class isClass, ← isWithout.nameFound_eq]
          unfold lookClass
          rw [Effect.bind_apply_of_ok _ (Effect.get_apply progress)]
          cases found : progress.nameFound with
          | true => rfl
          | false =>
              have noComponent : isComponentClass options.bases place.node = false := by
                rw [found] at other
                simpa using other
              have failure : classFailure? options.bases (Stop.outside place).node =
                  heritageFailure? place.node := by
                simp [classFailure?, Stop.outside, noComponent]
              rw [failure, Bool.not_false, if_pos rfl, Effect.bind_apply,
                Extracting.ofExcept_apply]
              obtain ⟨judged, sound⟩ | ⟨failure, judged, unsound⟩ :=
                isComponent_cases readable isClass options
              · rw [judged, sound, noComponent]
                rfl
              · rw [judged, unsound]
                rfl
        · rw [look_of_element element, failure?_of_element element]
          rfl
    | false =>
        obtain ⟨kind, -⟩ | ⟨kind, -⟩ | ⟨field, -⟩ := handlers_cases barred handled
        · simp only [look, failure?, Stop.outside, kind]
          exact Extracting.lookTarget_ends readable "name" progress
        · have failure : failure? options before (.outside place) =
              place.node.unusable? "left" := by
            rw [← Option.or_none (o := place.node.unusable? "left"), ← noTrigger]
            simp only [failure?, Stop.outside, kind]
          simp only [look, kind]
          rw [failure]
          exact Extracting.lookTarget_ends readable "left" progress
        · rw [look_of_field field, failure?_of_field field, noTrigger]
          rfl

theorem IsWithout.look_kept
    {options : ClassOptions}
    {before : List Stop}
    {place : Occurrence}
    {progress later : Progress}
    (isWithout : IsWithout options.bases before progress)
    (looked : look options place progress = (.ok (), later)) :
    IsWithout options.bases (before ++ [.outside place]) later := by
  obtain ⟨outside, wins⟩ := firstWins_of_look isWithout.outside looked
  have recorded := wins.isSome_eq
  rw [recordedClass, recordedClass, Option.isSome_map, Option.isSome_map,
    ← Progress.nameFound_eq, ← Progress.nameFound_eq, isWithout.nameFound_eq] at recorded
  refine ⟨outside, ?_⟩
  rw [recorded, hasComponent, hasComponent, List.any_append]
  rfl

/-! ## The whole search -/

/-- After the component, the places outside are foreseen. -/
theorem foresees_outside
    {places : List Occurrence}
    (readable : ∀ place ∈ places, place.node.IsReadable)
    (options : ClassOptions) :
    Foresees (failure? options)
      (fun before progress =>
        IsWithout options.bases before progress ∧ progress.nameFound = true)
      .outside (look options) places where
  ends := by
    intro before progress place isPlace ⟨isWithout, found⟩
    exact isWithout.look_ends (readable place isPlace) (.inl found)
  kept := by
    intro before progress later place _ ⟨isWithout, found⟩ looked
    have isWithoutLater := isWithout.look_kept looked
    refine ⟨isWithoutLater, ?_⟩
    rw [isWithoutLater.nameFound_eq, hasComponent, List.any_append, ← hasComponent,
      ← isWithout.nameFound_eq, found, Bool.true_or]

/-- The places inside of the component are foreseen. -/
theorem foresees_inside
    {places : List Occurrence}
    (readable : ∀ place ∈ places, place.node.IsReadable)
    (options : ClassOptions)
    (name : String) :
    Foresees (failure? options) (IsWithin options.bases name) .within lookInside places where
  ends := by
    intro before progress place isPlace isWithin
    exact isWithin.lookInside_ends (readable place isPlace)
  kept := by
    intro before progress later place _ isWithin looked
    exact isWithin.lookInside_kept looked

/-- A look at the component records its name and surveys its inside. -/
theorem look_of_component
    {options : ClassOptions}
    {place : Occurrence}
    {progress : Progress}
    (readable : place.node.IsReadable)
    (component : isComponentClass options.bases place.node = true)
    (unnamed : progress.nameFound = false) :
    heritageFailure? place.node = none ∧
      look options place progress =
        (do
          lookName place.node place.binding?
          forM (place.node.reachedBelow isBarrier) lookInside : Extracting Unit) progress := by
  have isClass : isClass place.node = true := by
    rw [isComponentClass, Bool.and_eq_true] at component
    exact component.1
  obtain ⟨judged, sound⟩ | ⟨failure, judged, -⟩ := isComponent_cases readable isClass options
  · refine ⟨sound, ?_⟩
    rw [look_of_class isClass]
    unfold lookClass
    rw [Effect.bind_apply_of_ok _ (Effect.get_apply progress), unnamed, judged, component]
    rfl
  · have judgedToo : isComponent ⟨options.bases⟩ place.node = .error failure := judged
    rw [isComponentClass, judgedToo, Bool.and_false] at component
    cases component

/-- With its name the component is entered. -/
theorem IsWithout.isWithin_of_lookName
    {bases : List Text}
    {before : List Stop}
    {place : Occurrence}
    {progress middle : Progress}
    (isWithout : IsWithout bases before progress)
    (component : isComponentClass bases place.node = true)
    (unnamed : progress.nameFound = false)
    (noTrigger : before.any Stop.isTrigger = false)
    (looked : lookName place.node place.binding? progress = (.ok (), middle)) :
    ∃ name, IsWithin bases name (before ++ [.outside place]) middle := by
  obtain ⟨name, -, consistent, records⟩ := lookName_ok isWithout.outside.consistent looked
  rw [Progress.nameFound_eq, Option.isSome_eq_false_iff, Option.isNone_iff_eq_none] at unnamed
  refine ⟨name.getD "", ⟨consistent, by rw [records]⟩, ?_, ?_⟩
  · simp [Class.hasComponent, Stop.outside, component]
  · rw [Progress.stateFound_eq, records, List.any_append, noTrigger]
    simp only [isWithout.outside.consistent.state_of_unnamed unnamed]
    rfl

/-- Behind the component the search is outside again. -/
theorem IsWithin.isWithout
    {bases : List Text}
    {name : String}
    {before : List Stop}
    {progress : Progress}
    (isWithin : IsWithin bases name before progress) :
    IsWithout bases before progress ∧ progress.nameFound = true := by
  have found := isWithin.inside.nameFound
  refine ⟨⟨⟨isWithin.inside.1, ?_⟩, ?_⟩, found⟩
  · intro unnamed
    rw [isWithin.inside.2] at unnamed
    cases unnamed
  · rw [found, isWithin.hasComponent]

/-- The search ends with the first failure among its stops, as long as it has not come to
the component. -/
theorem forM_look_ends
    {options : ClassOptions}
    {places : List Occurrence}
    (readable : ∀ place ∈ places, place.node.IsReadable) :
    ∀ before progress,
      IsWithout options.bases before progress → progress.nameFound = false →
        before.any Stop.isTrigger = false →
          (forM places (look options) progress).1 =
            endedBy (firstFailure? (failure? options) before (stops options.bases places)) := by
  induction places with
  | nil =>
      intro before progress _ _ _
      rfl
  | cons place rest inductionHypothesis =>
      intro before progress isWithout unnamed noTrigger
      obtain ⟨readableFirst, readableRest⟩ := List.forall_mem_cons.mp readable
      rw [List.forM_cons, stops]
      split
      · next component =>
          obtain ⟨sound, looked⟩ := look_of_component readableFirst component unnamed
          have readableInside : ∀ inner ∈ place.node.reachedBelow isBarrier,
              inner.node.IsReadable := fun inner => readableFirst.of_mem_reachedBelow
          have failure : failure? options before (.outside place) =
              nameFailure? place.node := by
            have isClass : isClass place.node = true := by
              rw [isComponentClass, Bool.and_eq_true] at component
              exact component.1
            rw [failure?_of_class isClass, ← isWithout.nameFound_eq, unnamed]
            simp [classFailure?, Stop.outside, component, sound]
          rw [Effect.bind_apply, looked, ← Effect.bind_apply, bind_assoc, firstFailure?,
            firstFailure?_append, failure]
          apply Extracting.bind_ends (lookName_ends readableFirst _ progress)
          intro middle named
          obtain ⟨name, isWithin⟩ :=
            isWithout.isWithin_of_lookName component unnamed noTrigger named
          have inside := foresees_inside readableInside options name
          apply Extracting.bind_ends (inside.forM_ends _ middle isWithin)
          intro later surveyed
          have isWithinLater := inside.forM_kept _ middle later isWithin surveyed
          exact (foresees_outside readableRest options).forM_ends _ later
            isWithinLater.isWithout
      · next other =>
          rw [Bool.not_eq_true] at other
          rw [firstFailure?]
          apply Extracting.bind_ends (isWithout.look_ends readableFirst (.inr other))
          intro later looked
          have isWithoutLater := isWithout.look_kept looked
          apply inductionHypothesis readableRest _ _ isWithoutLater
          · rw [isWithoutLater.nameFound_eq, hasComponent, List.any_append, ← hasComponent,
              ← isWithout.nameFound_eq, unnamed]
            simp [Stop.outside, other]
          · rw [List.any_append, noTrigger]
            rfl

/-- The search for a component class ends with the first failure among its stops. -/
theorem extract_ends
    {root : Node}
    (readable : root.IsReadable)
    (options : ClassOptions)
    (log : Log) :
    (extract options root (.start log)).1 =
      endedBy (firstFailure? (failure? options) []
        (stops options.bases (root.reached isBarrier))) := by
  have surveyed :
      (forM (root.reached isBarrier) (look options) (.start [])).1 = _ :=
    forM_look_ends (fun place isPlace => readable.of_mem_reached isPlace) [] (.start [])
      ⟨isOutside_start [], rfl⟩ rfl rfl
  rw [← surveyed]
  exact (Surveys.extract_eq_survey (surveys options) rfl (isOutside_start [])
    .classDeclaration root log).1

end Class
end ComponentOutline
