import ComponentOutline.Component.Progress
import ComponentOutline.Proofs.Effect.Ignores

/-!
# What recording does not depend on

The names bound around the current node and the mark of being inside of the component
change on the way through a tree, and the log grows.  Recording a name, a state or the
markup depends on none of them: it does the same at every place of the tree and after
any earlier records.
-/

namespace ComponentOutline

/-- What a walk keeps only while it is inside of a node. -/
structure Scope where
  bindings : List (Option String)
  inComponent : Bool

/-- The scope outside of everything. -/
def Scope.outermost : Scope :=
  ⟨[], false⟩

namespace Progress

/-- The same progress at some place of the tree, after some earlier records. -/
def placed (scope : Scope) (before : Log) (progress : Progress) : Progress :=
  { progress with
    bindings := scope.bindings
    inComponent := scope.inComponent
    log := before ++ progress.log }

variable (scope : Scope) (before : Log) (progress : Progress)

@[simp] theorem placed_nameFound :
    (progress.placed scope before).nameFound = progress.nameFound := rfl

@[simp] theorem placed_enclosingBinding :
    (progress.placed scope before).enclosingBinding = scope.bindings.head?.join := rfl

/-- Every walk begins outside of everything. -/
theorem start_eq_placed (log : Log) :
    start log = (start []).placed .outermost log := by
  simp [start, placed, Scope.outermost]

/-- What has been found of a component so far, and which parts of it. -/
def findings (progress : Progress) : Descriptor × Bool × Bool × Bool :=
  (progress.descriptor, progress.nameFound, progress.stateFound, progress.markupFound)

end Progress

namespace Markup

open Effect

variable {before : Log}

theorem ignores_write (record : LogRecord) :
    Ignores (before ++ ·) (Logged.write record) := by
  apply ignores_modify
  intro log
  exact List.append_assoc before log [record]

mutual

/-- The components of an element do not depend on earlier records. -/
theorem ignores_childComponents :
    (element : Node) → Ignores (before ++ ·) (childComponents element)
  | .mk label children => by
      have inside := @ignores_componentsIn children
      rw [childComponents]
      split
      · exact ignores_pure _
      · exact inside

/-- Reading components inside of markup only adds to the log. -/
theorem ignores_componentsIn :
    (nodes : List Node) → Ignores (before ++ ·) (componentsIn nodes)
  | [] => ignores_pure _
  | child :: rest => by
      have first := @ignores_childComponents child
      have others := @ignores_componentsIn rest
      rw [componentsIn]
      split
      · refine (ignores_ofExcept _).bind fun tag => ?_
        split
        · refine first.bind fun inner => ?_
          exact others.bind fun found => ignores_pure _
        · refine (ignores_write _).bind fun _ => ?_
          refine (ignores_ofExcept _).bind fun ownProps => ?_
          refine first.bind fun inner => ?_
          exact others.bind fun found => ignores_pure _
      · exact others

end

/-- The components rendered by an element, without what is logged on the way. -/
def components (element : Node) : Except Failure (List Descriptor) :=
  (childComponents element []).1

/-- What is found inside of markup does not depend on the log. -/
theorem childComponents_result (element : Node) (log : Log) :
    (childComponents element log).1 = components element := by
  have ignored : childComponents element (log ++ []) =
      ((childComponents element []).1, log ++ (childComponents element []).2) :=
    ignores_childComponents element []
  rw [← List.append_nil log, ignored]
  rfl

end Markup

namespace Extracting

open Effect

variable {scope : Scope} {before : Log}

/-- A step that only adds to the log ignores where it takes place. -/
theorem ignores_ofLogged
    {α : Type}
    {step : Logged α}
    (ignores : Ignores (before ++ ·) step) :
    Ignores (Progress.placed scope before) (ofLogged step) := by
  intro progress
  rw [ofLogged_apply, ofLogged_apply]
  have ignored : step (progress.placed scope before).log =
      ((step progress.log).1, before ++ (step progress.log).2) := ignores progress.log
  rw [ignored]
  rfl

theorem ignores_write (record : LogRecord) :
    Ignores (Progress.placed scope before) (write record) :=
  ignores_ofLogged (Markup.ignores_write record)

/-- Recording a name ignores where it takes place. -/
theorem ignores_recordName (pattern : Pattern) (name : Option String) :
    Ignores (Progress.placed scope before) (recordName pattern name) := by
  unfold recordName
  refine Ignores.bind ?_ fun _ => ignores_write _
  apply ignores_modify
  intro progress
  rfl

theorem ignores_recordState (initializer : Node) :
    Ignores (Progress.placed scope before) (recordState initializer) := by
  unfold recordState
  refine (ignores_ofExcept _).bind fun entries => ?_
  refine (ignores_write _).bind fun _ => ?_
  apply ignores_modify
  intro progress
  rfl

theorem ignores_recordMarkup (element : Node) :
    Ignores (Progress.placed scope before) (recordMarkup element) := by
  unfold recordMarkup
  refine Ignores.bind ?_ fun _ => ?_
  · apply ignores_modify
    intro progress
    rfl
  refine (ignores_ofExcept _).bind fun props => ?_
  refine Ignores.bind ?_ fun _ => ?_
  · apply ignores_modify
    intro progress
    rfl
  refine (ignores_ofLogged (Markup.ignores_childComponents element)).bind fun children => ?_
  refine Ignores.bind ?_ fun _ => ?_
  · apply ignores_modify
    intro progress
    rfl
  exact (ignores_ofExcept _).bind fun tag => ignores_write _

end Extracting
end ComponentOutline
