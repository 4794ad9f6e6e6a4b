import ComponentOutline.Proofs.Component.Class
import ComponentOutline.Proofs.Component.Settling
import ComponentOutline.Proofs.Walk.Invariant

/-!
# Scopes during a walk

A visitor keeps the names bound around the current node and the mark of being in the component
in fields that handlers set and that actions on leaving a node set back.  Whatever the order of
these calls, at every call of a handler the fields say what the tree says: the names are those
of the bindings around the node, and the mark is set inside of the component class and nowhere
else.
-/

namespace ComponentOutline

open Walk Progress

/-! ## What handlers do to the scope -/

/-- What a handler may do at a node.  The component class is one of the classes that are
matched, and it is entered while no name has been found. -/
inductive Opens (matched : Node → Bool) (node : Node) (before : Progress) :
    Except Failure Extracting.Outcome × Progress → Prop
  | fails {failure : Failure} {after : Progress}
      (settles : before.Settles after) :
      Opens matched node before (.error failure, after)
  /-- The scope inside of the node is that around it. -/
  | passes {descents : Nat} {after : Progress}
      (grows : Grows before after)
      (other : node.isBinding = false)
      (unmatched : ¬ (matched node = true ∧ before.nameFound = false)) :
      Opens matched node before (.ok ⟨descents, none⟩, after)
  /-- The node binds a name around its parts. -/
  | binds {after : Progress}
      (grows : Grows before after)
      (binds : node.isBinding = true)
      (unmatched : ¬ (matched node = true ∧ before.nameFound = false)) :
      Opens matched node before
        (.ok (.descendThen Extracting.unbind),
          { after with bindings := node.boundName? :: after.bindings })
  /-- The node is the component class. -/
  | marks {after : Progress}
      (grows : Grows before after)
      (other : node.isBinding = false)
      (isMatched : matched node = true)
      (unnamed : before.nameFound = false)
      (named : after.nameFound = true) :
      Opens matched node before
        (.ok (.descendThen Class.leaveComponent), { after with inComponent := true })

section Handlers

variable {matched : Node → Bool} {node : Node} {before : Progress}

/-- A handler that looks without regard to the place, and leaves nothing behind. -/
theorem opens_of_look
    {look : Extracting Unit}
    {outcome : Extracting.Outcome}
    (ignores : ∀ {scope : Scope} {before : Log},
      Effect.Ignores (Progress.placed scope before) look)
    (settles : before.Settles (look before).2)
    (silent : outcome.onExit = none)
    (other : node.isBinding = false)
    (unmatched : ¬ (matched node = true ∧ before.nameFound = false)) :
    Opens matched node before
      ((do look; return outcome : Extracting Extracting.Outcome) before) := by
  have grows := grows_of_look ignores settles
  obtain ⟨descents, onExit⟩ := outcome
  cases silent
  rw [Effect.bind_apply]
  cases looked : look before with
  | mk result after =>
      rw [looked] at grows
      cases result with
      | error failure => exact .fails grows.settles
      | ok value => exact .passes grows other unmatched

/-- A handler that binds a name, after a look. -/
theorem opens_of_binding
    {field : String}
    {after : Progress}
    (grows : Grows before after)
    (holds : node.targetField? = some field)
    (unmatched : ¬ (matched node = true ∧ before.nameFound = false)) :
    Opens matched node before
      ((do
        let target ← Extracting.ofExcept (node.requireField field)
        Extracting.withBinding target : Extracting Extracting.Outcome) after) := by
  rw [Extracting.withBinding_apply]
  cases read : node.readTarget field with
  | error failure => exact .fails grows.settles
  | ok name =>
      have binds : node.isBinding = true := by
        rw [Node.isBinding, holds]
        rfl
      rw [← Node.boundName?_of_readTarget holds read]
      exact .binds grows binds unmatched

theorem opens_declarator
    (kind : node.kind = "variable_declarator")
    (unmatched : matched node = false) :
    Opens matched node before (Extracting.enterDeclarator node before) := by
  have holds : node.targetField? = some "name" := by
    simp [Node.targetField?, kind]
  exact opens_of_binding (.refl before) holds (by simp [unmatched])

/-- An assignment is entered after what has been looked at. -/
theorem opens_assignment
    {after : Progress}
    (grows : Grows before after)
    (kind : node.kind = "assignment_expression")
    (unmatched : matched node = false) :
    Opens matched node before (Extracting.enterAssignment node after) := by
  have holds : node.targetField? = some "left" := by
    simp [Node.targetField?, kind]
  exact opens_of_binding grows holds (by simp [unmatched])

theorem isBinding_of_element
    (element : Markup.isElement node = true) :
    node.isBinding = false := by
  obtain kind | kind := (Markup.isElement_iff node).mp element
  · apply Node.isBinding_eq_false <;> simp [kind]
  · apply Node.isBinding_eq_false <;> simp [kind]

/-- Markup opens no scope. -/
theorem opens_element
    (element : Markup.isElement node = true)
    (unmatched : matched node = false) :
    Opens matched node before (Extracting.enterElement node before) := by
  have other := isBinding_of_element element
  rw [Extracting.enterElement_eq]
  exact opens_of_look (Extracting.ignores_lookElement node)
    (Extracting.settles_lookElement node before) rfl other (by simp [unmatched])

end Handlers

namespace Factory

/-- A factory call opens no scope, and there is no component class. -/
theorem opens
    {options : FactoryOptions}
    {node : Node}
    {handler : Handler Progress Failure}
    (handled : handlers options node.kind = some handler)
    (before : Progress) :
    Opens (fun _ => false) node before (handler node before) := by
  unfold handlers at handled
  split at handled
  · next kind =>
      cases handled
      exact opens_declarator kind rfl
  · next kind =>
      cases handled
      exact opens_assignment (.refl before) kind rfl
  · next kind =>
      cases handled
      have other : node.isBinding = false := by
        apply Node.isBinding_eq_false <;> simp [kind]
      rw [enterCall_apply]
      exact opens_of_look (ignores_lookCall options node _)
        (settles_lookCall options node _ before) rfl other (by simp)
  · next kind =>
      cases handled
      exact opens_element ((Markup.isElement_iff node).mpr (.inl kind)) rfl
  · next kind =>
      cases handled
      exact opens_element ((Markup.isElement_iff node).mpr (.inr kind)) rfl
  · cases handled

theorem isBinding_of_unhandled
    {options : FactoryOptions}
    {node : Node}
    (unhandled : handlers options node.kind = none) :
    node.isBinding = false := by
  apply Node.isBinding_eq_false
  · intro kind
    rw [kind] at unhandled
    cases unhandled
  · intro kind
    rw [kind] at unhandled
    cases unhandled

end Factory

namespace Class

/-- The first component class is entered with its name, and left when all inside has been seen. -/
theorem enterClass_of_component
    {options : ClassOptions}
    {node : Node}
    {progress : Progress}
    (unnamed : progress.nameFound = false)
    (recognized : isComponent options node = .ok true) :
    enterClass options node progress =
      match nameOf node progress.enclosingBinding with
      | .error failure => (.error failure, progress)
      | .ok name =>
          (.ok (.descendThen leaveComponent),
            { (Extracting.recordName .classDeclaration name progress).2 with
              inComponent := true }) := by
  have notYet : ¬progress.nameFound = true := by
    simp [unnamed]
  unfold enterClass
  rw [Effect.bind_apply_of_ok _ (Effect.get_apply _), if_neg notYet, recognized,
    Effect.bind_apply_of_ok _ (Extracting.ofExcept_apply _ _), Bool.not_true,
    if_neg Bool.false_ne_true, Effect.bind_apply, Extracting.ofExcept_apply]
  cases nameOf node progress.enclosingBinding with
  | error failure => rfl
  | ok name => rfl

/-- The first class that extends a base component is the component class. -/
theorem opens_enterClass
    {options : ClassOptions}
    {node : Node}
    (isClass : isClass node = true)
    (before : Progress) :
    Opens (isComponentClass options.bases) node before (enterClass options node before) := by
  have other : node.isBinding = false := by
    obtain kind | kind := (isClass_iff node).mp isClass
    · apply Node.isBinding_eq_false <;> simp [kind]
    · apply Node.isBinding_eq_false <;> simp [kind]
  cases found : before.nameFound with
  | true =>
      rw [enterClass_of_nameFound found]
      exact .passes (.refl before) other (by simp [found])
  | false =>
      cases judged : isComponent options node with
      | error failure =>
          rw [enterClass_of_error found judged]
          exact .fails (.refl before)
      | ok recognized =>
          have isMatched := isComponentClass_of_judged isClass judged
          cases recognized with
          | false =>
              rw [enterClass_of_other found judged]
              exact .passes (.refl before) other (by simp [isMatched])
          | true =>
              rw [enterClass_of_component found judged]
              cases nameOf node before.enclosingBinding with
              | error failure => exact .fails (.refl before)
              | ok name =>
                  have settles :=
                    Extracting.settles_recordName found .classDeclaration name
                  exact .marks ⟨settles, rfl, rfl⟩ other isMatched found rfl

/-- An assignment may give the state before it binds its target. -/
theorem opens_enterAssignment
    {options : ClassOptions}
    {node : Node}
    (kind : node.kind = "assignment_expression")
    (before : Progress) :
    Opens (isComponentClass options.bases) node before (enterAssignment node before) := by
  have unmatched : isComponentClass options.bases node = false :=
    isComponentClass_eq_false (by simp [isClass, kind]) options.bases
  cases inside : before.inComponent with
  | false =>
      rw [enterAssignment_outside inside]
      exact opens_assignment (.refl before) kind unmatched
  | true =>
      have grows := grows_of_look (ignores_lookAssignment node)
        (settles_lookAssignment node before)
      rw [enterAssignment_apply inside, Effect.bind_apply]
      cases looked : lookAssignment node before with
      | mk result after =>
          rw [looked] at grows
          cases result with
          | error failure => exact .fails grows.settles
          | ok value => exact opens_assignment grows kind unmatched

theorem opens_enterField
    {options : ClassOptions}
    {node : Node}
    (field : isField node = true)
    (before : Progress) :
    Opens (isComponentClass options.bases) node before (enterField node before) := by
  have other := isBinding_of_field field
  have unmatched : isComponentClass options.bases node = false := by
    apply isComponentClass_eq_false
    obtain kind | kind := (isField_iff node).mp field
    · simp [isClass, kind]
    · simp [isClass, kind]
  cases inside : before.inComponent with
  | false =>
      rw [enterField_outside inside]
      exact .passes (.refl before) other (by simp [unmatched])
  | true =>
      rw [enterField_apply inside]
      exact opens_of_look (ignores_lookField node) (settles_lookField node before) rfl other
        (by simp [unmatched])

theorem opens_enterElement
    {options : ClassOptions}
    {node : Node}
    (element : Markup.isElement node = true)
    (before : Progress) :
    Opens (isComponentClass options.bases) node before (enterElement node before) := by
  have notClass : isClass node = false := by
    obtain kind | kind := (Markup.isElement_iff node).mp element
    · simp [isClass, kind]
    · simp [isClass, kind]
  have unmatched := isComponentClass_eq_false notClass options.bases
  cases inside : before.inComponent with
  | false =>
      rw [enterElement_outside inside]
      exact .passes (.refl before) (isBinding_of_element element) (by simp [unmatched])
  | true =>
      rw [enterElement_apply inside, ← Extracting.enterElement_eq]
      exact opens_element element unmatched

/-- A class opens the scope of the component if it is the first that matches. -/
theorem opens
    {options : ClassOptions}
    {node : Node}
    {handler : Handler Progress Failure}
    (handled : handlers options node.kind = some handler)
    (before : Progress) :
    Opens (isComponentClass options.bases) node before (handler node before) := by
  cases classNode : isClass node with
  | true =>
      rw [handlers_of_class classNode] at handled
      cases handled
      exact opens_enterClass classNode before
  | false =>
      cases element : Markup.isElement node with
      | true =>
          rw [handlers_of_element element] at handled
          cases handled
          exact opens_enterElement element before
      | false =>
          have unbarred : isBarrier node = false := by
            simp [isBarrier, classNode, element]
          obtain ⟨kind, rfl⟩ | ⟨kind, rfl⟩ | ⟨field, rfl⟩ := handlers_cases unbarred handled
          · exact opens_declarator kind (isComponentClass_eq_false classNode options.bases)
          · exact opens_enterAssignment kind before
          · exact opens_enterField field before

end Class

/-! ## The scope in front of a place -/

/-- A call of the handler of a class that becomes the component class: the class matches, and
no name has been found. -/
def IsMatch (matched : Node → Bool) (call : Call Progress) : Prop :=
  matched call.place.node = true ∧ call.state.nameFound = false

/-- What was found at a call has not changed. -/
def AreSettled (calls : List (Call Progress)) (progress : Progress) : Prop :=
  ∀ call ∈ calls, call.state.Settles progress

/-- Calls that are settled stay so while what they found stays. -/
theorem AreSettled.trans
    {calls : List (Call Progress)}
    {before after : Progress}
    (settled : AreSettled calls before)
    (settles : before.Settles after) :
    AreSettled calls after :=
  fun call isCall => (settled call isCall).trans settles

/-- What holds in front of a place: the bound names are those of the bindings around it, the
mark of being in the component is set exactly if the component class is around it, and
nothing that was found at a call has changed. -/
structure InScope
    (matched : Node → Bool)
    (ancestors : List Node)
    (path : List Nat)
    (calls : List (Call Progress))
    (progress : Progress) : Prop where
  bindings_eq : progress.bindings = Node.boundNames ancestors
  inComponent_iff :
    progress.inComponent = true ↔
      ∃ call ∈ calls, IsMatch matched call ∧ IsBelow path call.place.path
  named_of_match : ∀ call ∈ calls, IsMatch matched call → progress.nameFound = true
  settled : AreSettled calls progress

/-- At the root nothing is bound, and no component is open. -/
theorem inScope_start (matched : Node → Bool) (log : Log) :
    InScope matched [] [] [] (.start log) where
  bindings_eq := rfl
  inComponent_iff := by simp [Progress.start]
  named_of_match := by simp
  settled := List.forall_mem_nil _

section Scope

variable
  {matched : Node → Bool}
  {place : Place}
  {calls : List (Call Progress)}
  {before after : Progress}

/-- The calls around a child of a place are those around the place, if none at the place
itself is that of the component class. -/
theorem exists_match_child_iff
    (notHere : ∀ call ∈ calls, IsMatch matched call → call.place.path ≠ place.path)
    (index : Nat) :
    (∃ call ∈ calls, IsMatch matched call ∧ IsBelow (index :: place.path) call.place.path) ↔
      ∃ call ∈ calls, IsMatch matched call ∧ IsBelow place.path call.place.path := by
  constructor
  · rintro ⟨call, isCall, isMatch, below⟩
    exact ⟨call, isCall, isMatch, isBelow_cons_iff.mp below, notHere call isCall isMatch⟩
  · rintro ⟨call, isCall, isMatch, below⟩
    exact ⟨call, isCall, isMatch, isBelow_cons_iff.mpr below.1⟩

/-- A scope is the same for all children of a node. -/
theorem InScope.beside
    {ancestors : List Node}
    {path : List Nat}
    {index : Nat}
    (scope : InScope matched ancestors (index :: path) calls before)
    (other : Nat) :
    InScope matched ancestors (other :: path) calls before where
  bindings_eq := scope.bindings_eq
  inComponent_iff := by
    rw [scope.inComponent_iff]
    simp only [isBelow_cons_iff]
  named_of_match := scope.named_of_match
  settled := scope.settled

/-- The scope inside of a node that opens none is that around it. -/
theorem inScope_child_iff
    (other : place.node.isBinding = false)
    (notHere : ∀ call ∈ calls, IsMatch matched call → call.place.path ≠ place.path) :
    InScope matched (place.node :: place.ancestors) (0 :: place.path) calls before ↔
      InScope matched place.ancestors place.path calls before := by
  have same := exists_match_child_iff notHere 0
  have names := Node.boundNames_cons_of_other other place.ancestors
  constructor
  · intro scope
    exact ⟨scope.bindings_eq.trans names, scope.inComponent_iff.trans same,
      scope.named_of_match, scope.settled⟩
  · intro scope
    exact ⟨scope.bindings_eq.trans names.symm, scope.inComponent_iff.trans same.symm,
      scope.named_of_match, scope.settled⟩

/-- After a call nothing that was found at it or before it has changed. -/
theorem AreSettled.after_call
    (settled : AreSettled calls before)
    (settles : before.Settles after) :
    AreSettled (calls ++ [⟨place, before⟩]) after :=
  List.forall_mem_append.mpr ⟨settled.trans settles, by simpa using settles⟩

/-- The same scope after a call that records something, but is not that of the component
class. -/
theorem InScope.after_call
    {ancestors : List Node}
    {path : List Nat}
    (scope : InScope matched ancestors path calls before)
    (grows : Grows before after)
    (unmatched : ¬ IsMatch matched ⟨place, before⟩) :
    InScope matched ancestors path (calls ++ [⟨place, before⟩]) after where
  bindings_eq := grows.bindings_eq.trans scope.bindings_eq
  inComponent_iff := by
    rw [grows.inComponent_eq, scope.inComponent_iff]
    simp [unmatched]
  named_of_match := by
    refine List.forall_mem_append.mpr ⟨fun call isCall isMatch => ?_, by simp [unmatched]⟩
    exact (grows.settles.name (scope.named_of_match call isCall isMatch)).1
  settled := scope.settled.after_call grows.settles

/-- No call that is not inside of a place was made at the place, besides one there that is not
that of the component class. -/
theorem notHere_of_untouched
    {inner : List (Call Progress)}
    (untouched : Untouched place.path calls)
    (areInside : AreInside place.path inner)
    (unmatched : ¬ IsMatch matched ⟨place, before⟩) :
    ∀ call ∈ calls ++ [⟨place, before⟩] ++ inner,
      IsMatch matched call → call.place.path ≠ place.path := by
  intro call isCall isMatch same
  obtain (isEarlier | isHere) | isInside := by
    simpa only [List.mem_append, List.mem_singleton] using isCall
  · exact untouched call isEarlier (by rw [same])
  · rw [isHere] at isMatch
    exact unmatched isMatch
  · exact (areInside call isInside).2 same.symm

/-- A handler opens the scope inside of its node. -/
theorem InScope.enter
    {outcome : Extracting.Outcome}
    (scope : InScope matched place.ancestors place.path calls before)
    (untouched : Untouched place.path calls)
    (opens : Opens matched place.node before (.ok outcome, after)) :
    InScope matched (place.node :: place.ancestors) (0 :: place.path)
      (calls ++ [⟨place, before⟩]) after := by
  cases opens with
  | passes grows other unmatched =>
      have notHere := notHere_of_untouched untouched (List.forall_mem_nil _) unmatched
      rw [List.append_nil] at notHere
      exact (inScope_child_iff other notHere).mpr (scope.after_call grows unmatched)
  | binds grows binds unmatched =>
      have notHere := notHere_of_untouched untouched (List.forall_mem_nil _) unmatched
      rw [List.append_nil] at notHere
      have called := scope.after_call grows unmatched
      refine ⟨?_, ?_, called.named_of_match, called.settled.trans (settles_of_findings rfl)⟩
      · rw [Node.boundNames_cons_of_binding binds, ← called.bindings_eq]
      · exact called.inComponent_iff.trans (exists_match_child_iff notHere 0).symm
  | marks grows other isMatched unnamed named =>
      have isMatch : IsMatch matched ⟨place, before⟩ := ⟨isMatched, unnamed⟩
      refine ⟨?_, ?_, fun _ _ _ => named,
        scope.settled.after_call (grows.settles.trans (settles_of_findings rfl))⟩
      · rw [Node.boundNames_cons_of_other other, ← scope.bindings_eq]
        exact grows.bindings_eq
      · refine ⟨fun _ => ⟨⟨place, before⟩, by simp, isMatch, ?_⟩, fun _ => rfl⟩
        exact isBelow_cons_iff.mpr List.suffix_rfl

/-- What a handler leaves behind closes the scope inside of its node. -/
theorem InScope.leave
    {outcome : Extracting.Outcome}
    {inner : List (Call Progress)}
    {later : Progress}
    (scope : InScope matched place.ancestors place.path calls before)
    (untouched : Untouched place.path calls)
    (opens : Opens matched place.node before (.ok outcome, after))
    (areInside : AreInside place.path inner)
    (inside : InScope matched (place.node :: place.ancestors) (0 :: place.path)
      (calls ++ [⟨place, before⟩] ++ inner) later) :
    ∃ last,
      Walk.leave outcome.onExit later = (.ok (), last) ∧
        InScope matched place.ancestors place.path
          (calls ++ [⟨place, before⟩] ++ inner) last := by
  cases opens with
  | passes grows other unmatched =>
      have notHere := notHere_of_untouched untouched areInside unmatched
      exact ⟨later, rfl, (inScope_child_iff other notHere).mp inside⟩
  | binds grows binds unmatched =>
      have notHere := notHere_of_untouched untouched areInside unmatched
      refine ⟨_, rfl, ?_, ?_, inside.named_of_match,
        inside.settled.trans (settles_of_findings rfl)⟩
      · change later.bindings.tail = _
        rw [inside.bindings_eq, Node.boundNames_cons_of_binding binds, List.tail_cons]
      · exact inside.inComponent_iff.trans (exists_match_child_iff notHere 0)
  | marks grows other isMatched unnamed named =>
      refine ⟨_, rfl, ?_, ?_, inside.named_of_match,
        inside.settled.trans (settles_of_findings rfl)⟩
      · exact inside.bindings_eq.trans (Node.boundNames_cons_of_other other place.ancestors)
      · refine ⟨fun impossible => absurd impossible Bool.false_ne_true, ?_⟩
        -- After an earlier match a name would have been found, and a later one is not around.
        rintro ⟨call, isCall, isMatch, below⟩
        obtain (isEarlier | isHere) | isInside := by
          simpa only [List.mem_append, List.mem_singleton] using isCall
        · rw [scope.named_of_match call isEarlier isMatch] at unnamed
          cases unnamed
        · rw [isHere] at below
          exact absurd rfl below.2
        · exact absurd (below.1.eq_of_length_le (areInside call isInside).1.length_le) below.2

end Scope

/-! ## Walks -/

/-- If every handler opens what it should, the scope is right in front of every place. -/
theorem invariant_inScope
    {handlers : Handlers Progress Failure}
    {matched : Node → Bool}
    (unbinding : ∀ {node : Node}, handlers node.kind = none → node.isBinding = false)
    (opens : ∀ {node : Node} {handler : Handler Progress Failure},
      handlers node.kind = some handler →
        ∀ before, Opens matched node before (handler node before)) :
    Invariant handlers (InScope matched) AreSettled where
  beside := fun _ other scope => scope.beside other
  passes := fun unhandled notHere =>
    inScope_child_iff (unbinding unhandled) fun call isCall _ => notHere call isCall
  fails := by
    intro place calls before handler failure after handled scope entered
    have opened := opens handled before
    rw [entered] at opened
    cases opened with
    | fails settles => exact scope.settled.after_call settles
  enters := by
    intro place calls before handler outcome after handled untouched scope entered
    have opened := opens handled before
    rw [entered] at opened
    exact scope.enter untouched opened
  leaves := by
    intro place calls before handler outcome after inner later handled untouched scope entered
      areInside inside
    have opened := opens handled before
    rw [entered] at opened
    obtain ⟨last, left, scopeAfter⟩ := scope.leave untouched opened areInside inside
    rw [left]
    exact scopeAfter

/-- The scope discipline of a walk, at each call of a handler and at the end. -/
structure KeepsScopes
    (handlers : Handlers Progress Failure)
    (matched : Node → Bool)
    (root : Node)
    (start : Progress) : Prop where
  /-- The calls are those of the walk itself, with the nodes and the states. -/
  watched :
    run (watched handlers) root (start, []) =
      ((run handlers root start).1, (run handlers root start).2,
        (calls handlers root start).map fun call => (call.place.node, call.state))
  /-- Every call is made at a place of the tree. -/
  isIn : ∀ call ∈ calls handlers root start, call.place.IsIn root
  /-- The stack holds the names that are bound around the node. -/
  bindings_eq : ∀ call ∈ calls handlers root start,
    call.state.bindings = Node.boundNames call.place.ancestors
  /-- The mark is set exactly inside of the component class. -/
  inComponent_iff : ∀ call ∈ calls handlers root start,
    call.state.inComponent = true ↔
      ∃ component ∈ calls handlers root start,
        IsMatch matched component ∧ component.place.IsAround call.place
  /-- There is at most one component class. -/
  match_once : (calls handlers root start).Pairwise fun first second =>
    ¬ (IsMatch matched first ∧ IsMatch matched second)
  /-- A walk that succeeds ends outside of everything. -/
  outermost : (run handlers root start).1 = .ok () →
    (run handlers root start).2.bindings = [] ∧
      (run handlers root start).2.inComponent = false
  /-- What is found is the same at all later calls and at the end. -/
  settles : ((calls handlers root start).map Call.state ++
    [(run handlers root start).2]).Pairwise Settles

/-- Of two calls, the later one is not around the earlier one, what was found at the earlier
one is the same at the later one, and not both are those of the component class. -/
theorem pairwise_calls
    {matched : Node → Bool}
    {calls : List (Call Progress)}
    (each : HoldsAtEach (InScope matched) [] calls) :
    calls.Pairwise fun first second =>
      ¬ second.place.path <:+ first.place.path ∧
        first.state.Settles second.state ∧
          ¬ (IsMatch matched first ∧ IsMatch matched second) := by
  apply each.pairwise
  intro earlier first second isEarlier untouched scope
  refine ⟨untouched first isEarlier, scope.settled first isEarlier, ?_⟩
  rintro ⟨matchesFirst, -, unnamed⟩
  rw [scope.named_of_match first isEarlier matchesFirst] at unnamed
  cases unnamed

/-- The scope at a call, with the component class among all calls and not only the earlier
ones. -/
theorem inScope_of_mem
    {matched : Node → Bool}
    {calls : List (Call Progress)}
    {call : Call Progress}
    (each : HoldsAtEach (InScope matched) [] calls)
    (isCall : call ∈ calls) :
    call.state.bindings = Node.boundNames call.place.ancestors ∧
      (call.state.inComponent = true ↔
        ∃ component ∈ calls,
          IsMatch matched component ∧ component.place.IsAround call.place) := by
  have pairwise := pairwise_calls each
  obtain ⟨front, back, rfl⟩ := List.append_of_mem isCall
  obtain ⟨-, scope⟩ := each.holds_at
  refine ⟨scope.bindings_eq, scope.inComponent_iff.trans ?_⟩
  constructor
  · rintro ⟨component, isEarlier, isMatch, around⟩
    exact ⟨component, List.mem_append_left _ isEarlier, isMatch, around⟩
  · rintro ⟨component, isAny, isMatch, around⟩
    obtain isEarlier | isHere | isLater := by
      simpa only [List.mem_append, List.mem_cons] using isAny
    · exact ⟨component, isEarlier, isMatch, around⟩
    · rw [isHere] at around
      exact absurd rfl around.2
    -- A walk calls handlers on the way down, so no later call is around this one.
    · have later := (List.pairwise_cons.mp (List.pairwise_append.mp pairwise).2.1).1
      exact absurd around.1 (later component isLater).1

/-- In front of the whole tree nothing is bound, and no call is around it. -/
theorem outermost_of_inScope
    {matched : Node → Bool}
    {calls : List (Call Progress)}
    {progress : Progress}
    (scope : InScope matched [] [] calls progress) :
    progress.bindings = [] ∧ progress.inComponent = false := by
  refine ⟨scope.bindings_eq, Bool.eq_false_iff.mpr fun inside => ?_⟩
  obtain ⟨call, -, -, through, different⟩ := scope.inComponent_iff.mp inside
  exact different (List.suffix_nil.mp through)

/-- However a walk concludes, its calls are settled. -/
theorem areSettled_of_concludes
    {matched : Node → Bool}
    {ancestors : List Node}
    {path : List Nat}
    {calls : List (Call Progress)}
    {progress : Progress}
    {result : Except Failure Unit}
    (concludes : Concludes (InScope matched) AreSettled ancestors path calls progress result) :
    AreSettled calls progress := by
  cases result with
  | error failure => exact concludes
  | ok value => exact concludes.settled

/-- Handlers that open scopes by nodes keep scopes along a walk. -/
theorem keepsScopes_of_opens
    {handlers : Handlers Progress Failure}
    {matched : Node → Bool}
    (unbinding : ∀ {node : Node}, handlers node.kind = none → node.isBinding = false)
    (opens : ∀ {node : Node} {handler : Handler Progress Failure},
      handlers node.kind = some handler →
        ∀ before, Opens matched node before (handler node before))
    (root : Node)
    (log : Log) :
    KeepsScopes handlers matched root (.start log) := by
  have invariant := invariant_inScope unbinding opens
  obtain ⟨isIn, each, concludes⟩ := invariant.holds_run root (inScope_start matched log)
  have pairwise := pairwise_calls each
  exact {
    watched := run_watched handlers root (.start log)
    isIn := isIn
    bindings_eq := fun call isCall => (inScope_of_mem each isCall).1
    inComponent_iff := fun call isCall => (inScope_of_mem each isCall).2
    match_once := pairwise.imp fun related => related.2.2
    outermost := by
      intro succeeded
      rw [succeeded] at concludes
      exact outermost_of_inScope concludes
    settles := by
      have settled := areSettled_of_concludes concludes
      refine List.pairwise_append.mpr ⟨?_, List.pairwise_singleton _ _, ?_⟩
      · exact List.pairwise_map.mpr (pairwise.imp fun related => related.2.1)
      · intro earlier isEarlier later isLater
        obtain ⟨call, isCall, rfl⟩ := List.mem_map.mp isEarlier
        rw [List.mem_singleton.mp isLater]
        exact settled call isCall }

/-- Whatever the tree and the options, at every call of a handler of either visitor the stack
holds the names bound around the node, and the mark of being in the component is set exactly
inside of the component class.  After a walk that succeeds both are as at the start.  What has
been found never changes again. -/
theorem visitors_keep_scopes (root : Node) (log : Log) :
    (∀ options : FactoryOptions,
      KeepsScopes (Factory.handlers options) (fun _ => false) root (.start log)) ∧
    ∀ options : ClassOptions,
      KeepsScopes (Class.handlers options) (Class.isComponentClass options.bases) root
        (.start log) := by
  constructor
  · intro options
    exact keepsScopes_of_opens Factory.isBinding_of_unhandled Factory.opens root log
  · intro options
    exact keepsScopes_of_opens Class.isBinding_of_unhandled Class.opens root log

/-- The tree of `x = class extends C {y = <A />}; <B />`, with a declared variable for the
field. -/
def scopedTree : Node :=
  .ofText "program" none "x = class extends C {y = <A />}; <B />" [
    .ofText "assignment_expression" none "x = class extends C {y = <A />}" [
      .ofText "identifier" (some "left") "x" [],
      .ofText "class" (some "right") "class extends C {y = <A />}" [
        .ofText "class_heritage" none "extends C" [
          .ofText "identifier" none "C" []],
        .ofText "class_body" (some "body") "{y = <A />}" [
          .ofText "variable_declarator" none "y = <A />" [
            .ofText "identifier" (some "name") "y" [],
            .ofText "jsx_self_closing_element" (some "value") "<A />" [
              .ofText "identifier" (some "name") "A" []]]]]],
    .ofText "jsx_self_closing_element" none "<B />" [
      .ofText "identifier" (some "name") "B" []]]

example :
    (calls (Class.handlers ⟨[Text.ofString "C"]⟩) scopedTree (.start [])).map
        (fun call => (call.place.path, call.state.bindings, call.state.inComponent)) =
      [([0], [], false), ([1, 0], [some "x"], false), ([0, 1, 1, 0], [some "x"], true),
        ([1, 0, 1, 1, 0], [some "y", some "x"], true), ([1], [], false)] := by
  rfl

end ComponentOutline
