import ComponentOutline.Proofs.Syntax.Occurrence
import ComponentOutline.Proofs.Walk.Recursion
import Mathlib.Data.List.Infix

/-!
# The calls of handlers with their places and states

A walk calls a handler with a node alone.  The recursion on the tree knows besides where the
node stands, so that it can list each call with its place and with the state at that moment.
The walk with pending work makes the same calls with the same states, in the same order.
-/

namespace ComponentOutline
namespace Walk

/-! ## Places -/

/-- A node of a tree, the nodes around it, and the way to it. -/
structure Place extends Occurrence where
  /-- The positions among the children on the way to the node, the last one first. -/
  path : List Nat

namespace Place

/-- The place of a whole tree. -/
def top (root : Node) : Place :=
  ⟨⟨[], root⟩, []⟩

/-- The place of a child. -/
def child (place : Place) (index : Nat) (node : Node) : Place :=
  ⟨⟨place.node :: place.ancestors, node⟩, index :: place.path⟩

/-- The places of a tree. -/
inductive IsIn (root : Node) : Place → Prop
  | top : IsIn root (top root)
  | child {place : Place} {index : Nat} {node : Node}
      (isIn : IsIn root place)
      (isChild : place.node.children[index]? = some node) :
      IsIn root (place.child index node)

end Place

/-- A way leads through the end of another and goes on. -/
def IsBelow (way outer : List Nat) : Prop :=
  outer <:+ way ∧ outer ≠ way

/-- A place is strictly around another. -/
def Place.IsAround (outer inner : Place) : Prop :=
  IsBelow inner.path outer.path

/-! ## The walk that knows where it is -/

variable {σ τ ε : Type}

mutual

/-- The walk of a tree by recursion, with handlers that are given a place. -/
def visitAt
    (handlers : Place → Option (Effect σ ε (Outcome σ ε)))
    (ancestors : List Node)
    (path : List Nat) : Node → Effect σ ε Unit
  | .mk label children =>
      match handlers ⟨⟨ancestors, .mk label children⟩, path⟩ with
      | none => visitAllAt handlers ⟨⟨ancestors, .mk label children⟩, path⟩ 0 children
      | some handler => do
          let outcome ← handler
          if outcome.descents ≠ 0 then
            visitAllAt handlers ⟨⟨ancestors, .mk label children⟩, path⟩ 0 children
          leave outcome.onExit

/-- The same for the children of a place from a position on. -/
def visitAllAt
    (handlers : Place → Option (Effect σ ε (Outcome σ ε)))
    (parent : Place)
    (index : Nat) : List Node → Effect σ ε Unit
  | [] => pure ()
  | node :: rest => do
      if node.named then
        visitAt handlers (parent.node :: parent.ancestors) (index :: parent.path) node
      visitAllAt handlers parent (index + 1) rest

end

/-- At a node without a handler the walk goes on to its children. -/
theorem visitAt_of_unhandled
    {handlers : Place → Option (Effect σ ε (Outcome σ ε))}
    {place : Place}
    (unhandled : handlers place = none) :
    visitAt handlers place.ancestors place.path place.node =
      visitAllAt handlers place 0 place.node.children := by
  obtain ⟨⟨ancestors, ⟨label, children⟩⟩, path⟩ := place
  rw [visitAt, unhandled]
  rfl

/-- A handler decides how the walk goes on at its node. -/
theorem visitAt_of_handled
    {handlers : Place → Option (Effect σ ε (Outcome σ ε))}
    {place : Place}
    {handler : Effect σ ε (Outcome σ ε)}
    (handled : handlers place = some handler) :
    visitAt handlers place.ancestors place.path place.node =
      handler >>= fun outcome =>
        (if outcome.descents ≠ 0 then visitAllAt handlers place 0 place.node.children
          else pure ()) >>= fun _ => leave outcome.onExit := by
  obtain ⟨⟨ancestors, ⟨label, children⟩⟩, path⟩ := place
  rw [visitAt, handled]
  simp only
  congr 1
  funext outcome
  split
  · rfl
  · rw [pure_bind]

theorem visit_eq_of_handled
    {handlers : Handlers σ ε}
    {node : Node}
    {handler : Handler σ ε}
    (handled : handlers node.kind = some handler) :
    visit handlers node =
      handler node >>= fun outcome =>
        (if outcome.descents ≠ 0 then visitAll handlers node.children else pure ()) >>= fun _ =>
          leave outcome.onExit := by
  rw [visit_of_handled handled]
  congr 1
  funext outcome
  rw [Outcome.asked, visitAll_eq_forM]
  split
  · rfl
  · rfl

theorem visitAllAt_cons
    (handlers : Place → Option (Effect σ ε (Outcome σ ε)))
    (parent : Place)
    (index : Nat)
    (node : Node)
    (rest : List Node) :
    visitAllAt handlers parent index (node :: rest) =
      (if node.named then
        visitAt handlers (parent.node :: parent.ancestors) (index :: parent.path) node
        else pure ()) >>= fun _ => visitAllAt handlers parent (index + 1) rest := by
  rw [visitAllAt]
  split
  · rfl
  · rw [pure_bind]

/-- A step does what a plain step does with a part of its state. -/
def Projects
    {α : Type}
    (forget : τ → σ)
    (step : Effect τ ε α)
    (plain : Effect σ ε α) : Prop :=
  ∀ state, plain (forget state) = ((step state).1, forget (step state).2)

/-- The same for handlers: they ask for the children alike, and leave behind actions of which
the one does what the other does. -/
def ProjectsOutcome
    (forget : τ → σ)
    (step : Effect τ ε (Outcome τ ε))
    (plain : Effect σ ε (Outcome σ ε)) : Prop :=
  ∀ state,
    match step state with
    | (.error failure, after) => plain (forget state) = (.error failure, forget after)
    | (.ok outcome, after) =>
        ∃ action,
          plain (forget state) = (.ok ⟨outcome.descents, action⟩, forget after) ∧
            Projects forget (leave outcome.onExit) (leave action)

/-- A sequence is projected step by step. -/
theorem Projects.bind
    {α β : Type}
    {forget : τ → σ}
    {step : Effect τ ε α}
    {plain : Effect σ ε α}
    {next : α → Effect τ ε β}
    {plainNext : α → Effect σ ε β}
    (first : Projects forget step plain)
    (second : ∀ value, Projects forget (next value) (plainNext value)) :
    Projects forget (step >>= next) (plain >>= plainNext) := by
  intro state
  rw [Effect.bind_apply, Effect.bind_apply, first]
  cases step state with
  | mk result after =>
      cases result with
      | ok value => exact second value after
      | error failure => rfl

theorem projects_pure
    {α : Type}
    (forget : τ → σ)
    (value : α) :
    Projects forget (pure value : Effect τ ε α) (pure value) := by
  intro state
  rfl

/-- Handlers that are given a place do what plain handlers do with its node. -/
structure ProjectsHandlers
    (forget : τ → σ)
    (placed : Place → Option (Effect τ ε (Outcome τ ε)))
    (plain : Handlers σ ε) : Prop where
  unhandled {place : Place} :
    plain place.node.kind = none → placed place = none
  handled {place : Place} {handler : Handler σ ε} :
    plain place.node.kind = some handler →
      ∃ step, placed place = some step ∧ ProjectsOutcome forget step (handler place.node)

/-- A node does what it does plainly if its children do. -/
theorem ProjectsOutcome.bind
    {forget : τ → σ}
    {step : Effect τ ε (Outcome τ ε)}
    {plain : Effect σ ε (Outcome σ ε)}
    {inside : Effect τ ε Unit}
    {plainInside : Effect σ ε Unit}
    (entering : ProjectsOutcome forget step plain)
    (walking : Projects forget inside plainInside) :
    Projects forget
      (step >>= fun outcome =>
        (if outcome.descents ≠ 0 then inside else pure ()) >>= fun _ => leave outcome.onExit)
      (plain >>= fun outcome =>
        (if outcome.descents ≠ 0 then plainInside else pure ()) >>= fun _ =>
          leave outcome.onExit) := by
  intro state
  have entered := entering state
  rw [Effect.bind_apply, Effect.bind_apply]
  split at entered
  · next failure after stepped =>
      rw [stepped, entered]
  · next outcome after stepped =>
      obtain ⟨action, plainly, leaving⟩ := entered
      rw [stepped, plainly]
      refine Projects.bind ?_ (fun _ => leaving) after
      change Projects forget _ (if outcome.descents ≠ 0 then _ else _)
      split
      · exact walking
      · exact projects_pure forget ()

mutual

/-- If the handlers do what plain handlers do, so does the walk. -/
theorem ProjectsHandlers.visitAt
    {forget : τ → σ}
    {placed : Place → Option (Effect τ ε (Outcome τ ε))}
    {plain : Handlers σ ε}
    (project : ProjectsHandlers forget placed plain) :
    (node : Node) → (ancestors : List Node) → (path : List Nat) →
      Projects forget (visitAt placed ancestors path node) (visit plain node)
  | .mk label children, ancestors, path => by
      let place : Place := ⟨⟨ancestors, .mk label children⟩, path⟩
      have inside : Projects forget (Walk.visitAllAt placed place 0 place.node.children)
          (visitAll plain children) :=
        project.visitAllAt children place 0
      change Projects forget (Walk.visitAt placed place.ancestors place.path place.node)
        (visit plain place.node)
      cases handled : plain place.node.kind with
      | none =>
          rw [visitAt_of_unhandled (project.unhandled handled), visit_of_unhandled handled]
          rw [visitAll_eq_forM] at inside
          exact inside
      | some handler =>
          obtain ⟨step, placedHere, entering⟩ := project.handled handled
          rw [visitAt_of_handled placedHere, visit_eq_of_handled handled]
          exact entering.bind inside

/-- A walk with places is projected to the walk without them. -/
theorem ProjectsHandlers.visitAllAt
    {forget : τ → σ}
    {placed : Place → Option (Effect τ ε (Outcome τ ε))}
    {plain : Handlers σ ε}
    (project : ProjectsHandlers forget placed plain) :
    (nodes : List Node) → (parent : Place) → (index : Nat) →
      Projects forget (visitAllAt placed parent index nodes) (visitAll plain nodes)
  | [], parent, index => by
      rw [Walk.visitAllAt, visitAll]
      exact projects_pure forget ()
  | node :: rest, parent, index => by
      have first := project.visitAt node (parent.node :: parent.ancestors) (index :: parent.path)
      have others := project.visitAllAt rest parent (index + 1)
      rw [Walk.visitAllAt, visitAll]
      split
      · exact first.bind fun _ => others
      · exact others

end

/-! ## Watching the calls -/

/-- A call of a handler: where, and in which state. -/
structure Call (σ : Type) where
  place : Place
  state : σ

/-- A step that does not look at what is listed beside the state. -/
def unwatched {α : Type} (step : Effect σ ε α) : Effect (σ × List τ) ε α :=
  fun state => ((step state.1).1, (step state.1).2, state.2)

/-- The same handler, which lists first what can be seen. -/
def watching (seen : σ → τ) (step : Effect σ ε (Outcome σ ε)) :
    Effect (σ × List τ) ε (Outcome (σ × List τ) ε) := do
  modify fun state => (state.1, state.2 ++ [seen state.1])
  let outcome ← unwatched step
  return ⟨outcome.descents, outcome.onExit.map unwatched⟩

/-- The same handlers, which list the nodes that they are called with and the states. -/
def watched (handlers : Handlers σ ε) : Handlers (σ × List (Node × σ)) ε :=
  fun kind => (handlers kind).map fun handler node => watching (Prod.mk node) (handler node)

/-- The same handlers, which list the places that they are called at and the states. -/
def watchedAt (handlers : Handlers σ ε) (place : Place) :
    Option (Effect (σ × List (Call σ)) ε (Outcome (σ × List (Call σ)) ε)) :=
  (handlers place.node.kind).map fun handler => watching (Call.mk place) (handler place.node)

theorem watchedAt_of_unhandled
    {handlers : Handlers σ ε}
    {place : Place}
    (unhandled : handlers place.node.kind = none) :
    watchedAt handlers place = none := by
  rw [watchedAt, unhandled]
  rfl

theorem watchedAt_of_handled
    {handlers : Handlers σ ε}
    {place : Place}
    {handler : Handler σ ε}
    (handled : handlers place.node.kind = some handler) :
    watchedAt handlers place =
      some (watching (Call.mk place) (handler place.node)) := by
  rw [watchedAt, handled]
  rfl

/-- The calls of handlers in the walk of a tree. -/
def calls (handlers : Handlers σ ε) (root : Node) (state : σ) : List (Call σ) :=
  (visitAt (watchedAt handlers) [] [] root (state, [])).2.2

/-- Watching a handler adds the call and changes nothing else. -/
theorem watching_apply
    (seen : σ → τ)
    (step : Effect σ ε (Outcome σ ε))
    (state : σ)
    (list : List τ) :
    watching seen step (state, list) =
      ((step state).1.map fun outcome => ⟨outcome.descents, outcome.onExit.map unwatched⟩,
        (step state).2, list ++ [seen state]) := by
  simp only [watching, Effect.bind_apply, Effect.modify_apply, unwatched]
  cases step state with
  | mk result after =>
      cases result with
      | ok outcome => rfl
      | error failure => rfl

theorem leave_unwatched
    (action : Option (Effect σ ε Unit))
    (state : σ)
    (list : List τ) :
    leave (action.map unwatched) (state, list) =
      ((leave action state).1, (leave action state).2, list) := by
  cases action with
  | none => rfl
  | some action => rfl

/-- Without the list, a watched handler does what the handler does. -/
theorem projectsOutcome_fst
    (seen : σ → τ)
    (step : Effect σ ε (Outcome σ ε)) :
    ProjectsOutcome Prod.fst (watching seen step) step := by
  rintro ⟨state, list⟩
  rw [watching_apply]
  cases step state with
  | mk result after =>
      cases result with
      | error failure => rfl
      | ok outcome =>
          refine ⟨outcome.onExit, rfl, ?_⟩
          rintro ⟨later, further⟩
          rw [leave_unwatched]
          rfl

/-- What is listed may be read in another way. -/
theorem projectsOutcome_map
    {υ : Type}
    (read : τ → υ)
    (seen : σ → τ)
    (step : Effect σ ε (Outcome σ ε)) :
    ProjectsOutcome (fun state => (state.1, state.2.map read))
      (watching seen step) (watching (fun state => read (seen state)) step) := by
  rintro ⟨state, list⟩
  rw [watching_apply, watching_apply]
  cases step state with
  | mk result after =>
      cases result with
      | error failure => simp [Except.map]
      | ok outcome =>
          refine ⟨outcome.onExit.map unwatched, by simp [Except.map], ?_⟩
          rintro ⟨later, further⟩
          rw [leave_unwatched, leave_unwatched]

/-- The recursion that lists the calls does what the walk does. -/
theorem visitAt_watchedAt
    (handlers : Handlers σ ε)
    (root : Node)
    (state : σ) :
    visitAt (watchedAt handlers) [] [] root (state, []) =
      ((run handlers root state).1, (run handlers root state).2, calls handlers root state) := by
  have project : ProjectsHandlers Prod.fst (watchedAt handlers) handlers := by
    refine ⟨fun unhandled => watchedAt_of_unhandled unhandled, fun handled => ?_⟩
    exact ⟨_, watchedAt_of_handled handled, projectsOutcome_fst _ _⟩
  have same := project.visitAt root [] [] (state, [])
  rw [run_eq_visit, same]
  rfl

/-- The walk that lists the nodes and the states of its calls lists those of the places. -/
theorem run_watched
    (handlers : Handlers σ ε)
    (root : Node)
    (state : σ) :
    run (watched handlers) root (state, []) =
      ((run handlers root state).1, (run handlers root state).2,
        (calls handlers root state).map fun call => (call.place.node, call.state)) := by
  have project :
      ProjectsHandlers
        (fun whole : σ × List (Call σ) =>
          (whole.1, whole.2.map fun call => (call.place.node, call.state)))
        (watchedAt handlers) (watched handlers) := by
    constructor
    · intro place unhandled
      exact watchedAt_of_unhandled (Option.map_eq_none_iff.mp unhandled)
    · intro place watcher found
      obtain ⟨handler, handled, rfl⟩ := Option.map_eq_some_iff.mp found
      exact ⟨_, watchedAt_of_handled handled, projectsOutcome_map _ _ _⟩
  have same := project.visitAt root [] [] (state, [])
  rw [visitAt_watchedAt] at same
  rw [run_eq_visit (watched handlers)]
  exact same

end Walk
end ComponentOutline
