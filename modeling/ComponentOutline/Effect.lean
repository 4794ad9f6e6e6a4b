/-!
# Steps that change a state and may fail

A failure keeps the state of the moment in which it happened, so that what was
written before it is not lost.
-/

namespace ComponentOutline

/-- A step that changes a state and may fail; a failure keeps the state. -/
abbrev Effect (σ ε α : Type) := ExceptT ε (StateM σ) α

namespace Effect

variable {σ ε α β : Type}

/-- A step that leaves the state alone. -/
def ofExcept (result : Except ε α) : Effect σ ε α :=
  fun state => (result, state)

@[simp] theorem ofExcept_apply (result : Except ε α) (state : σ) :
    (ofExcept result : Effect σ ε α) state = (result, state) := rfl

@[simp] theorem pure_apply (value : α) (state : σ) :
    (pure value : Effect σ ε α) state = (.ok value, state) := rfl

@[simp] theorem get_apply (state : σ) :
    (get : Effect σ ε σ) state = (.ok state, state) := rfl

@[simp] theorem modify_apply (change : σ → σ) (state : σ) :
    (modify change : Effect σ ε PUnit) state = (.ok ⟨⟩, change state) := rfl

/-- A step that fails ends the computation in the state that it leaves. -/
theorem bind_apply (step : Effect σ ε α) (next : α → Effect σ ε β) (state : σ) :
    (step >>= next) state =
      match step state with
      | (.ok value, after) => next value after
      | (.error failure, after) => (.error failure, after) := by
  change (match step state with
    | (result, after) => ExceptT.bindCont next result after) = _
  cases step state with
  | mk result after =>
      cases result with
      | ok value => rfl
      | error failure => rfl

/-- A function on the result leaves the state alone. -/
theorem map_apply (change : α → β) (step : Effect σ ε α) (state : σ) :
    (change <$> step) state = ((step state).1.map change, (step state).2) := by
  change (match step state with
    | (result, after) => ((match result with
        | .ok value => pure (.ok (change value))
        | .error failure => pure (.error failure) : StateM σ (Except ε β)) after)) = _
  cases step state with
  | mk result after =>
      cases result with
      | ok value => rfl
      | error failure => rfl

theorem bind_apply_of_ok
    {step : Effect σ ε α}
    {state after : σ}
    {value : α}
    (next : α → Effect σ ε β)
    (succeeded : step state = (.ok value, after)) :
    (step >>= next) state = next value after := by
  rw [bind_apply, succeeded]

theorem bind_apply_of_error
    {step : Effect σ ε α}
    {state after : σ}
    {failure : ε}
    (next : α → Effect σ ε β)
    (failed : step state = (.error failure, after)) :
    (step >>= next) state = (.error failure, after) := by
  rw [bind_apply, failed]

/-- What succeeds is not caught. -/
theorem tryCatch_apply_of_ok
    {step : Effect σ ε α}
    {state after : σ}
    {value : α}
    (handler : ε → Effect σ ε α)
    (succeeded : step state = (.ok value, after)) :
    tryCatch step handler state = (.ok value, after) := by
  change (match step state with
    | (result, between) =>
        (match result with
          | .ok value => (pure (.ok value) : StateM σ (Except ε α))
          | .error failure => handler failure) between) = _
  rw [succeeded]
  rfl

/-- What fails is left to the handler. -/
theorem tryCatch_apply_of_error
    {step : Effect σ ε α}
    {state after : σ}
    {failure : ε}
    (handler : ε → Effect σ ε α)
    (failed : step state = (.error failure, after)) :
    tryCatch step handler state = handler failure after := by
  change (match step state with
    | (result, between) =>
        (match result with
          | .ok value => (pure (.ok value) : StateM σ (Except ε α))
          | .error failure => handler failure) between) = _
  rw [failed]

/-- A computation that succeeds went through a success of its first step. -/
theorem ok_of_bind_apply
    {step : Effect σ ε α}
    {next : α → Effect σ ε β}
    {state after : σ}
    {value : β}
    (succeeded : (step >>= next) state = (.ok value, after)) :
    ∃ middle between,
      step state = (.ok middle, between) ∧ next middle between = (.ok value, after) := by
  rw [bind_apply] at succeeded
  cases stepped : step state with
  | mk result between =>
      rw [stepped] at succeeded
      cases result with
      | ok middle => exact ⟨middle, between, rfl, succeeded⟩
      | error failure => cases succeeded

/-- The same for a computation without a state. -/
theorem ok_of_except_bind
    {result : Except ε α}
    {next : α → Except ε β}
    {value : β}
    (succeeded : (result >>= next) = .ok value) :
    ∃ middle, result = .ok middle ∧ next middle = .ok value := by
  cases result with
  | ok middle => exact ⟨middle, rfl, succeeded⟩
  | error failure => cases succeeded

theorem ok_of_except_map
    {result : Except ε α}
    {function : α → β}
    {value : β}
    (succeeded : result.map function = .ok value) :
    ∃ middle, result = .ok middle ∧ function middle = value := by
  cases result with
  | ok middle => exact ⟨middle, rfl, Except.ok.inj succeeded⟩
  | error failure => cases succeeded

end Effect
end ComponentOutline
