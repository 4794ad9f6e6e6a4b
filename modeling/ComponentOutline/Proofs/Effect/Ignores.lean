import ComponentOutline.Effect

/-!
# Steps that ignore a change of the state

A step ignores a change of the state when it goes the same way before and after the
change and hands the change on.  Steps that are put together from such steps ignore
the change too.
-/

namespace ComponentOutline
namespace Effect

variable {σ ε α β : Type} {change : σ → σ}

/-- A step that does not look at what a change of the state changes. -/
def Ignores (change : σ → σ) (step : Effect σ ε α) : Prop :=
  ∀ state, step (change state) = ((step state).1, change (step state).2)

theorem ignores_pure (value : α) :
    Ignores change (pure value : Effect σ ε α) := by
  intro state
  rfl

theorem ignores_ofExcept (result : Except ε α) :
    Ignores change (ofExcept result) := by
  intro state
  rfl

/-- An update ignores a change that it commutes with. -/
theorem ignores_modify
    {update : σ → σ}
    (commutes : ∀ state, update (change state) = change (update state)) :
    Ignores change (modify update : Effect σ ε PUnit) := by
  intro state
  rw [modify_apply, modify_apply, commutes]

/-- A sequence of steps ignores what each of its steps ignores. -/
theorem Ignores.bind
    {step : Effect σ ε α}
    {next : α → Effect σ ε β}
    (first : Ignores change step)
    (second : ∀ value, Ignores change (next value)) :
    Ignores change (step >>= next) := by
  intro state
  rw [bind_apply, bind_apply, first]
  cases step state with
  | mk result after =>
      cases result with
      | ok value => exact second value after
      | error failure => rfl

/-- A step that looks at the state, but only at what the change keeps. -/
theorem ignores_get_bind
    {next : σ → Effect σ ε β}
    (same : ∀ state, next (change state) = next state)
    (ignores : ∀ state, Ignores change (next state)) :
    Ignores change (get >>= next) := by
  intro state
  change next (change state) (change state) = _
  rw [same, ignores state state]
  rfl

end Effect
end ComponentOutline
