import ComponentOutline.Proofs.Component.Factory
import ComponentOutline.Proofs.Component.Failure

/-!
# How the search for a factory call fails

Up to the first factory call, every call has to have a callee; from then on calls are not
looked at any more.  The first factory call itself fails as reading its state does.
Bindings have to have a target everywhere.  The search ends with the first of these
failures among the places outside of elements.
-/

namespace ComponentOutline

open Walk

namespace Factory

/-- Whether there is a factory call among some places. -/
def hasCall (callees : List Text) (places : List Occurrence) : Bool :=
  places.any fun place => isCallOf callees place.node

/-- The failure of a call that no factory call comes before. -/
def callFailure? (options : FactoryOptions) (call : Node) : Option Failure :=
  (call.unusable? "function").or
    (if isCallOf options.callees call then failureOf (readState options call) else none)

/-- The failure of a place, after the places before it. -/
def failure? (options : FactoryOptions) (before : List Occurrence) (place : Occurrence) :
    Option Failure :=
  match place.node.kind with
  | "variable_declarator" => place.node.unusable? "name"
  | "assignment_expression" => place.node.unusable? "left"
  | "call_expression" =>
      if hasCall options.callees before then none else callFailure? options place.node
  | _ => none

/-- Before there is a state, a supplier ends as reading its state does. -/
theorem readSupplier_ends
    {progress : Progress}
    (unset : progress.stateFound = false)
    (options : FactoryOptions)
    (object : Node) :
    (readSupplier options object progress).1 =
      endedBy (failureOf (do
        match ← supplier? options object.namedChildren with
        | none => return none
        | some function =>
            let initializer ← returnedExpression function
            let state ← Literal.componentState initializer
            return some state)) := by
  unfold readSupplier
  rw [Effect.bind_apply, Extracting.ofExcept_apply]
  cases supplier? options object.namedChildren with
  | error failure => rfl
  | ok supplier =>
      cases supplier with
      | none => rfl
      | some function =>
          simp only
          rw [Effect.bind_apply_of_ok _ (Effect.get_apply progress), unset, Bool.not_false,
            if_pos rfl, Effect.bind_apply, Extracting.ofExcept_apply]
          change _ = endedBy (failureOf (returnedExpression function >>= fun initializer =>
            Literal.componentState initializer >>= fun state => pure (some state)))
          cases returnedExpression function with
          | error failure => rfl
          | ok initializer =>
              simp only
              rw [Extracting.recordState_ends]
              change _ = endedBy (failureOf (Literal.componentState initializer >>=
                fun state => pure (some state)))
              cases Literal.componentState initializer with
              | error failure => rfl
              | ok state => rfl

theorem lookConfiguration_ends
    {progress : Progress}
    (unset : progress.stateFound = false)
    (options : FactoryOptions)
    (call : Node) :
    (lookConfiguration options call progress).1 =
      endedBy (failureOf (readState options call)) := by
  rw [lookConfiguration_eq]
  unfold readState
  cases configuration? call with
  | none => rfl
  | some object => exact readSupplier_ends unset options object

/-- A call that can be read is judged, or it has no callee. -/
theorem isFactoryCall_cases
    {call : Node}
    (readable : call.IsReadable)
    (kind : call.kind = "call_expression")
    (options : FactoryOptions) :
    (isFactoryCall options call = .ok (isCallOf options.callees call) ∧
      call.unusable? "function" = none) ∨
    ∃ failure,
      isFactoryCall options call = .error failure ∧
        call.unusable? "function" = some failure := by
  obtain ⟨callee, held, required, usable⟩ | ⟨failure, required, unusable⟩ :=
    call.requireField_cases "function"
  · have readableCallee : callee.IsReadable := readable.of_child? held
    have judged : ∃ recognized, isFactoryCall options call = .ok recognized := by
      rw [isFactoryCall, required]
      change ∃ recognized, (if callee.kind == "member_expression" then _ else _) = _
      split
      · cases found : callee.child? "property" with
        | none => exact ⟨false, rfl⟩
        | some property =>
            obtain ⟨name, read⟩ :=
              Node.IsReadable.readText (readableCallee.of_child? found)
            simp only [read]
            exact ⟨_, rfl⟩
      · obtain ⟨name, read⟩ := readableCallee.readText
        rw [read]
        split
        · exact ⟨_, rfl⟩
        · exact ⟨_, rfl⟩
    obtain ⟨recognized, judged⟩ := judged
    rw [isCallOf_of_isFactoryCall kind judged]
    exact .inl ⟨judged, usable⟩
  · refine .inr ⟨failure, ?_, unusable⟩
    rw [isFactoryCall, required]
    rfl

/-- Before the first factory call, a look at a call ends with the call's failure. -/
theorem lookCall_ends
    {options : FactoryOptions}
    {call : Node}
    {progress : Progress}
    (readable : call.IsReadable)
    (kind : call.kind = "call_expression")
    (unnamed : progress.nameFound = false)
    (unset : progress.stateFound = false)
    (binding : Option String) :
    (lookCall options call binding progress).1 = endedBy (callFailure? options call) := by
  unfold lookCall callFailure?
  rw [Effect.bind_apply_of_ok _ (Effect.get_apply progress), unnamed, Bool.not_false,
    if_pos rfl, Effect.bind_apply, Extracting.ofExcept_apply]
  obtain ⟨judged, usable⟩ | ⟨failure, judged, unusable⟩ :=
    isFactoryCall_cases readable kind options
  · rw [judged, usable, Option.none_or]
    cases isCallOf options.callees call with
    | false => rfl
    | true =>
        -- recording the name leaves the state unset
        have recorded : ∃ later,
            Extracting.recordName .factoryCall binding progress = (.ok (), later) ∧
              later.stateFound = false := ⟨_, rfl, unset⟩
        obtain ⟨later, named, unsetLater⟩ := recorded
        simp only [if_true]
        rw [Effect.bind_apply_of_ok _ named]
        exact lookConfiguration_ends unsetLater options call
  · rw [judged, unusable]
    rfl

/-- What is known after some places: whether there was a factory call among them. -/
structure IsAfter (options : FactoryOptions) (before : List Occurrence) (progress : Progress) :
    Prop where
  consistent : progress.Consistent
  nameFound_eq : progress.nameFound = hasCall options.callees before

/-- No state is found before a component is. -/
theorem IsAfter.stateFound_of_unnamed
    {options : FactoryOptions}
    {before : List Occurrence}
    {progress : Progress}
    (isAfter : IsAfter options before progress)
    (unnamed : progress.nameFound = false) :
    progress.stateFound = false := by
  rw [Progress.nameFound_eq, Option.isSome_eq_false_iff, Option.isNone_iff_eq_none] at unnamed
  rw [Progress.stateFound_eq, isAfter.consistent.state_of_unnamed unnamed]
  rfl

/-- A place ends as it is foreseen from what went before. -/
theorem IsAfter.look_ends
    {options : FactoryOptions}
    {before : List Occurrence}
    {place : Occurrence}
    {progress : Progress}
    (isAfter : IsAfter options before progress)
    (readable : place.node.IsReadable) :
    (look options place progress).1 = endedBy (failure? options before place) := by
  generalize looking : look options place = step
  unfold look at looking
  split at looking
  · next kind =>
      subst looking
      simp only [failure?, kind]
      exact Extracting.lookTarget_ends readable "name" progress
  · next kind =>
      subst looking
      simp only [failure?, kind]
      exact Extracting.lookTarget_ends readable "left" progress
  · next kind =>
      subst looking
      simp only [failure?, kind]
      rw [← isAfter.nameFound_eq]
      cases found : progress.nameFound with
      | true =>
          unfold lookCall
          rw [Effect.bind_apply_of_ok _ (Effect.get_apply progress), found]
          rfl
      | false =>
          exact lookCall_ends readable kind found (isAfter.stateFound_of_unnamed found) _
  · next kind =>
      subst looking
      obtain ⟨later, looked⟩ := Extracting.lookElement_returns readable progress
      simp only [failure?, kind, looked]
      rfl
  · next kind =>
      subst looking
      obtain ⟨later, looked⟩ := Extracting.lookElement_returns readable progress
      simp only [failure?, kind, looked]
      rfl
  · subst looking
    simp only [failure?]
    rfl

theorem IsAfter.look_kept
    {options : FactoryOptions}
    {before : List Occurrence}
    {place : Occurrence}
    {progress later : Progress}
    (isAfter : IsAfter options before progress)
    (looked : look options place progress = (.ok (), later)) :
    IsAfter options (before ++ [place]) later := by
  obtain ⟨consistent, counts⟩ := counts_of_look isAfter.consistent looked
  have recorded := counts.1.isSome_eq
  rw [recordedCall, recordedCall, Option.isSome_map, Option.isSome_map,
    ← Progress.nameFound_eq, ← Progress.nameFound_eq, isAfter.nameFound_eq] at recorded
  refine ⟨consistent, ?_⟩
  rw [recorded, hasCall, hasCall, List.any_append]

/-- The search for a factory call ends with the first failure among the places outside of
elements. -/
theorem extract_ends
    {root : Node}
    (readable : root.IsReadable)
    (options : FactoryOptions)
    (log : Log) :
    (extract options root (.start log)).1 =
      endedBy (firstFailure? (failure? options) [] (root.reached Markup.isElement)) := by
  have foresees : Foresees (failure? options) (IsAfter options) id (look options)
      (root.reached Markup.isElement) := by
    constructor
    · intro before progress place isPlace isAfter
      exact isAfter.look_ends (readable.of_mem_reached isPlace)
    · intro before progress later place _ isAfter looked
      exact isAfter.look_kept looked
  have surveyed := foresees.forM_ends [] (.start []) ⟨Progress.consistent_start [], rfl⟩
  rw [List.map_id] at surveyed
  rw [← surveyed]
  exact (Surveys.extract_eq_survey (surveys options) rfl trivial .factoryCall root log).1

end Factory
end ComponentOutline
