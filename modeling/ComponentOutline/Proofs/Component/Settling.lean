import ComponentOutline.Proofs.Component.ClassBody
import ComponentOutline.Proofs.Component.Factory

/-!
# What is found is never changed again

Each part of an outline has a flag that says whether it has been found.  A look at a node
records a part only while its flag is down, and it sets the flag: what has a flag stays as
it is.  No look changes the names bound around a node or the mark of being in the component.
-/

namespace ComponentOutline

namespace Progress

/-- What is found stays found, and the parts of the outline that it guards stay the same. -/
structure Settles (earlier later : Progress) : Prop where
  name : earlier.nameFound = true →
    later.nameFound = true ∧ later.descriptor.name = earlier.descriptor.name
  state : earlier.stateFound = true →
    later.stateFound = true ∧ later.descriptor.state = earlier.descriptor.state
  markup : earlier.markupFound = true →
    later.markupFound = true ∧ later.descriptor.props = earlier.descriptor.props ∧
      later.descriptor.children = earlier.descriptor.children

theorem Settles.refl (progress : Progress) : Settles progress progress :=
  ⟨fun found => ⟨found, rfl⟩, fun found => ⟨found, rfl⟩, fun found => ⟨found, rfl, rfl⟩⟩

/-- What is found stays found over any number of steps. -/
theorem Settles.trans
    {first second third : Progress}
    (start : Settles first second)
    (goOn : Settles second third) :
    Settles first third where
  name := by
    intro found
    obtain ⟨foundStill, same⟩ := start.name found
    obtain ⟨foundLater, sameLater⟩ := goOn.name foundStill
    exact ⟨foundLater, sameLater.trans same⟩
  state := by
    intro found
    obtain ⟨foundStill, same⟩ := start.state found
    obtain ⟨foundLater, sameLater⟩ := goOn.state foundStill
    exact ⟨foundLater, sameLater.trans same⟩
  markup := by
    intro found
    obtain ⟨foundStill, sameProps, sameChildren⟩ := start.markup found
    obtain ⟨foundLater, samePropsLater, sameChildrenLater⟩ := goOn.markup foundStill
    exact ⟨foundLater, samePropsLater.trans sameProps, sameChildrenLater.trans sameChildren⟩

/-- Whatever else changes, what has been found is the same. -/
theorem settles_of_findings
    {earlier later : Progress}
    (same : later.findings = earlier.findings) :
    Settles earlier later := by
  obtain ⟨sameDescriptor, sameFlags⟩ := Prod.mk.inj same
  obtain ⟨sameName, sameFlags⟩ := Prod.mk.inj sameFlags
  obtain ⟨sameState, sameMarkup⟩ := Prod.mk.inj sameFlags
  constructor
  · intro found
    rw [sameName, sameDescriptor]
    exact ⟨found, rfl⟩
  · intro found
    rw [sameState, sameDescriptor]
    exact ⟨found, rfl⟩
  · intro found
    rw [sameMarkup, sameDescriptor]
    exact ⟨found, rfl, rfl⟩

end Progress

namespace Extracting

open Progress

variable {α β : Type} {progress : Progress}

/-! ## Steps -/

/-- A sequence settles if each of its steps does, the second one from where the first one ends. -/
theorem settles_bind
    {step : Extracting α}
    {next : α → Extracting β}
    (first : Settles progress (step progress).2)
    (second : ∀ value after,
      step progress = (.ok value, after) → Settles after (next value after).2) :
    Settles progress ((step >>= next) progress).2 := by
  rw [Effect.bind_apply]
  cases stepped : step progress with
  | mk result after =>
      rw [stepped] at first
      cases result with
      | error failure => exact first
      | ok value => exact first.trans (second value after stepped)

/-- A result that was computed beforehand changes nothing by itself. -/
theorem settles_ofExcept_bind
    {result : Except Failure α}
    {next : α → Extracting β}
    (second : ∀ value, Settles progress (next value progress).2) :
    Settles progress ((ofExcept result >>= next) progress).2 := by
  refine settles_bind (.refl progress) fun value after evaluated => ?_
  obtain ⟨-, rfl⟩ := Prod.mk.inj evaluated
  exact second value

theorem settles_write (record : LogRecord) :
    Settles progress (write record progress).2 :=
  settles_of_findings rfl

/-- A name is recorded only while there is none. -/
theorem settles_recordName
    (unnamed : progress.nameFound = false)
    (pattern : Pattern)
    (name : Option String) :
    Settles progress (recordName pattern name progress).2 := by
  obtain ⟨⟨_, _, _, _⟩, _, _, _, _, _, _⟩ := progress
  constructor
  · intro found
    rw [unnamed] at found
    cases found
  · intro found
    exact ⟨found, rfl⟩
  · intro found
    exact ⟨found, rfl, rfl⟩

theorem settles_recordState
    (noState : progress.stateFound = false)
    (initializer : Node) :
    Settles progress (recordState initializer progress).2 := by
  unfold recordState
  refine settles_ofExcept_bind fun entries => ?_
  refine settles_bind (settles_write _) fun _ after wrote => ?_
  cases wrote
  obtain ⟨⟨_, _, _, _⟩, _, _, _, _, _, _⟩ := progress
  constructor
  · intro found
    exact ⟨found, rfl⟩
  · intro found
    rw [noState] at found
    cases found
  · intro found
    exact ⟨found, rfl, rfl⟩

/-- Only the markup differs, and it had not been found. -/
theorem settles_of_noMarkup
    {earlier later : Progress}
    (noMarkup : earlier.markupFound = false)
    (sameName : later.nameFound = earlier.nameFound ∧
      later.descriptor.name = earlier.descriptor.name)
    (sameState : later.stateFound = earlier.stateFound ∧
      later.descriptor.state = earlier.descriptor.state) :
    Settles earlier later where
  name := fun found => ⟨sameName.1.trans found, sameName.2⟩
  state := fun found => ⟨sameState.1.trans found, sameState.2⟩
  markup := by
    intro found
    rw [noMarkup] at found
    cases found

theorem settles_recordMarkup
    (noMarkup : progress.markupFound = false)
    (element : Node) :
    Settles progress (recordMarkup element progress).2 := by
  obtain ⟨⟨_, _, _, _⟩, _, _, _, _, _, _⟩ := progress
  unfold recordMarkup
  -- The flag is set first: wherever a later step fails, only the markup differs.
  rw [Effect.bind_apply, Effect.modify_apply]
  simp only
  rw [Effect.bind_apply, ofExcept_apply]
  cases Markup.props element with
  | error failure => exact settles_of_noMarkup noMarkup ⟨rfl, rfl⟩ ⟨rfl, rfl⟩
  | ok props =>
      simp only
      rw [Effect.bind_apply, Effect.modify_apply]
      simp only
      rw [Effect.bind_apply, ofLogged_apply]
      cases (Markup.childComponents element _).1 with
      | error failure => exact settles_of_noMarkup noMarkup ⟨rfl, rfl⟩ ⟨rfl, rfl⟩
      | ok children =>
          simp only
          rw [Effect.bind_apply, Effect.modify_apply]
          simp only
          rw [Effect.bind_apply, ofExcept_apply]
          cases Markup.tagName element with
          | error failure => exact settles_of_noMarkup noMarkup ⟨rfl, rfl⟩ ⟨rfl, rfl⟩
          | ok tag => exact settles_of_noMarkup noMarkup ⟨rfl, rfl⟩ ⟨rfl, rfl⟩

/-! ## Looks -/

/-- Looking at an element never changes what was found before. -/
theorem settles_lookElement (element : Node) (progress : Progress) :
    Settles progress (lookElement element progress).2 := by
  unfold lookElement
  rw [Effect.bind_apply_of_ok _ (Effect.get_apply progress)]
  cases found : progress.markupFound with
  | true => exact .refl progress
  | false => exact settles_recordMarkup found element

end Extracting

namespace Class

open Progress Extracting

theorem settles_lookAssignment (node : Node) (progress : Progress) :
    Settles progress (lookAssignment node progress).2 := by
  unfold lookAssignment
  refine settles_ofExcept_bind fun target => ?_
  rw [Effect.bind_apply_of_ok _ (Effect.get_apply progress)]
  cases found : progress.stateFound with
  | true => exact .refl progress
  | false =>
      refine settles_ofExcept_bind fun isState => ?_
      cases isState with
      | false => exact .refl progress
      | true => exact settles_ofExcept_bind (settles_recordState found)

theorem settles_lookField (node : Node) (progress : Progress) :
    Settles progress (lookField node progress).2 := by
  unfold lookField
  rw [Effect.bind_apply_of_ok _ (Effect.get_apply progress)]
  cases found : progress.stateFound with
  | true => exact .refl progress
  | false =>
      rw [Bool.not_false, if_pos rfl]
      cases node.child? "value" with
      | none => exact .refl progress
      | some value =>
          cases fieldName? node with
          | none => exact .refl progress
          | some nameNode =>
              refine settles_ofExcept_bind fun name => ?_
              split
              · exact settles_recordState found value
              · exact .refl progress

end Class

namespace Factory

open Progress Extracting

/-- Reading a supplier never changes what was found before. -/
theorem settles_readSupplier
    (options : FactoryOptions)
    (object : Node)
    (progress : Progress) :
    Settles progress (readSupplier options object progress).2 := by
  unfold readSupplier
  refine settles_ofExcept_bind fun supplier => ?_
  cases supplier with
  | none => exact .refl progress
  | some function =>
      simp only
      rw [Effect.bind_apply_of_ok _ (Effect.get_apply progress)]
      cases found : progress.stateFound with
      | true => exact .refl progress
      | false => exact settles_ofExcept_bind (settles_recordState found)

theorem settles_lookConfiguration
    (options : FactoryOptions)
    (call : Node)
    (progress : Progress) :
    Settles progress (lookConfiguration options call progress).2 := by
  unfold lookConfiguration
  cases firstArgument? call with
  | none => exact settles_write _
  | some object =>
      simp only
      split
      · exact settles_readSupplier options object progress
      · exact settles_write _

/-- A factory call fills in what is missing and leaves the rest. -/
theorem settles_lookCall
    (options : FactoryOptions)
    (call : Node)
    (binding : Option String)
    (progress : Progress) :
    Settles progress (lookCall options call binding progress).2 := by
  unfold lookCall
  rw [Effect.bind_apply_of_ok _ (Effect.get_apply progress)]
  cases found : progress.nameFound with
  | true => exact .refl progress
  | false =>
      refine settles_ofExcept_bind fun recognized => ?_
      cases recognized with
      | false => exact .refl progress
      | true =>
          exact settles_bind (settles_recordName found _ _) fun _ after _ =>
            settles_lookConfiguration options call after

end Factory

/-! ## The scope of a look -/

/-- A look that does not depend on the place changes nothing about it. -/
structure Grows (earlier later : Progress) : Prop where
  settles : earlier.Settles later
  bindings_eq : later.bindings = earlier.bindings
  inComponent_eq : later.inComponent = earlier.inComponent

theorem Grows.refl (progress : Progress) : Grows progress progress :=
  ⟨.refl progress, rfl, rfl⟩

/-- A look that ignores where it takes place and settles what was found makes the progress grow. -/
theorem grows_of_look
    {look : Extracting Unit}
    {progress : Progress}
    (ignores : ∀ {scope : Scope} {before : Log},
      Effect.Ignores (Progress.placed scope before) look)
    (settles : progress.Settles (look progress).2) :
    Grows progress (look progress).2 := by
  have same : progress.placed ⟨progress.bindings, progress.inComponent⟩ [] = progress := rfl
  have kept := @ignores ⟨progress.bindings, progress.inComponent⟩ [] progress
  rw [same] at kept
  refine ⟨settles, ?_, ?_⟩
  · rw [kept]
    rfl
  · rw [kept]
    rfl

end ComponentOutline
