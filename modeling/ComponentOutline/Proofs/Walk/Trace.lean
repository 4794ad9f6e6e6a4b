import ComponentOutline.Proofs.Walk.Recursion

/-!
# What a walk calls, and when

A walk calls handlers on entering nodes and the actions that they leave behind on
leaving them.  The order of these calls is noted in a trace by running the same walk
with recorded handlers.  Beside it stands the walk as an evaluation relation, one rule
for each thing that can happen at a node, which lists the calls as it goes:
a node's exit comes right after its whole subtree, also when the subtree was skipped,
and a call that fails is the last one.  The walk with pending work gives exactly the
traces, results and states of that relation.
-/

namespace ComponentOutline
namespace Walk

variable {σ ε : Type}

/-- Something that a walk calls. -/
inductive Event where
  /-- The handler of a node. -/
  | entered (node : Node)
  /-- The action that the handler of a node left behind. -/
  | left (node : Node)

/-! ## Recording -/

/-- Notes a call. -/
def note (event : Event) : Effect (σ × List Event) ε Unit :=
  modify fun state => (state.1, state.2 ++ [event])

/-- A step that does not look at the trace. -/
def untraced {α : Type} (step : Effect σ ε α) : Effect (σ × List Event) ε α :=
  fun state => ((step state.1).1, (step state.1).2, state.2)

/-- The same exit action, its call noted. -/
def recordedExit (node : Node) (action : Effect σ ε Unit) :
    Effect (σ × List Event) ε Unit := do
  note (.left node)
  untraced action

/-- The same handler, its calls and those of its exit actions noted. -/
def recordedHandler (handler : Handler σ ε) : Handler (σ × List Event) ε :=
  fun node => do
    note (.entered node)
    let outcome ← untraced (handler node)
    return ⟨outcome.descents, outcome.onExit.map (recordedExit node)⟩

/-- The same handlers, all their calls noted. -/
def recorded (handlers : Handlers σ ε) : Handlers (σ × List Event) ε :=
  fun kind => (handlers kind).map recordedHandler

theorem recorded_of_unhandled
    {handlers : Handlers σ ε}
    {kind : String}
    (unhandled : handlers kind = none) :
    recorded handlers kind = none := by
  simp [recorded, unhandled]

theorem recorded_of_handled
    {handlers : Handlers σ ε}
    {kind : String}
    {handler : Handler σ ε}
    (handled : handlers kind = some handler) :
    recorded handlers kind = some (recordedHandler handler) := by
  simp [recorded, handled]

/-- A handler that returns is recorded, and so will be its end. -/
theorem recordedHandler_of_ok
    {handler : Handler σ ε}
    {node : Node}
    {state after : σ}
    {outcome : Outcome σ ε}
    (entered : handler node state = (.ok outcome, after))
    (before : List Event) :
    recordedHandler handler node (state, before) =
      (.ok ⟨outcome.descents, outcome.onExit.map (recordedExit node)⟩,
        after, before ++ [.entered node]) := by
  simp only [recordedHandler, note, untraced, Effect.bind_apply, Effect.modify_apply, entered,
    Effect.pure_apply]

theorem recordedHandler_of_error
    {handler : Handler σ ε}
    {node : Node}
    {state after : σ}
    {failure : ε}
    (entered : handler node state = (.error failure, after))
    (before : List Event) :
    recordedHandler handler node (state, before) =
      (.error failure, after, before ++ [.entered node]) := by
  simp only [recordedHandler, note, untraced, Effect.bind_apply, Effect.modify_apply, entered]

/-! ## The walk as a relation -/

/-- What is called on leaving a node, given what its handler left behind. -/
inductive Leaves (node : Node) :
    Option (Effect σ ε Unit) → σ → List Event → Except ε Unit → σ → Prop
  | silently (state : σ) : Leaves node none state [] (.ok ()) state
  | calling
      {action : Effect σ ε Unit}
      {state after : σ}
      {result : Except ε Unit}
      (called : action state = (result, after)) :
      Leaves node (some action) state [.left node] result after

mutual

/-- From a state, the walk of a node makes the calls of a trace, in this order, and
ends with a result in a state. -/
inductive Walks (handlers : Handlers σ ε) :
    Node → σ → List Event → Except ε Unit → σ → Prop
  /-- A node without a handler is passed through. -/
  | passing {node state trace result after}
      (unhandled : handlers node.kind = none)
      (inside : WalksEach handlers node.namedChildren state trace result after) :
      Walks handlers node state trace result after
  /-- The handler fails: nothing else is called. -/
  | failing {node handler state failure after}
      (handled : handlers node.kind = some handler)
      (entered : handler node state = (.error failure, after)) :
      Walks handlers node state [.entered node] (.error failure) after
  /-- The walk fails inside of the node: the exit action is not called. -/
  | interrupted {node handler state outcome middle trace failure after}
      (handled : handlers node.kind = some handler)
      (entered : handler node state = (.ok outcome, middle))
      (inside :
        WalksEach handlers (outcome.asked node) middle trace (.error failure) after) :
      Walks handlers node state (.entered node :: trace) (.error failure) after
  /-- The subtree, if it was asked for, is walked to its end, and the node is left. -/
  | completed {node handler state outcome middle trace finished exits result after}
      (handled : handlers node.kind = some handler)
      (entered : handler node state = (.ok outcome, middle))
      (inside : WalksEach handlers (outcome.asked node) middle trace (.ok ()) finished)
      (leaves : Leaves node outcome.onExit finished exits result after) :
      Walks handlers node state (.entered node :: (trace ++ exits)) result after

/-- The same for the walk of several nodes, from left to right. -/
inductive WalksEach (handlers : Handlers σ ε) :
    List Node → σ → List Event → Except ε Unit → σ → Prop
  | nil (state : σ) : WalksEach handlers [] state [] (.ok ()) state
  /-- After a failure the later nodes are not walked. -/
  | interrupted {node rest state trace failure after}
      (first : Walks handlers node state trace (.error failure) after) :
      WalksEach handlers (node :: rest) state trace (.error failure) after
  | cons {node rest state front middle back result after}
      (first : Walks handlers node state front (.ok ()) middle)
      (others : WalksEach handlers rest middle back result after) :
      WalksEach handlers (node :: rest) state (front ++ back) result after

end

/-! ## Every evaluation is a recorded recursion -/

theorem Leaves.leave_recorded
    {node : Node}
    {onExit : Option (Effect σ ε Unit)}
    {state after : σ}
    {exits : List Event}
    {result : Except ε Unit}
    (leaves : Leaves node onExit state exits result after)
    (before : List Event) :
    leave (onExit.map (recordedExit node)) (state, before) =
      (result, after, before ++ exits) := by
  cases leaves with
  | silently => simp [leave]
  | calling called =>
      simp [leave, recordedExit, Effect.bind_apply, note, untraced, called]

mutual

/-- The recorded walk makes the events of the relation, in their order. -/
theorem Walks.visit_recorded
    {handlers : Handlers σ ε}
    {node : Node}
    {state after : σ}
    {trace : List Event}
    {result : Except ε Unit} :
    Walks handlers node state trace result after →
      ∀ before, visit (recorded handlers) node (state, before) =
        (result, after, before ++ trace)
  | .passing unhandled inside => by
      intro before
      rw [visit_of_unhandled (recorded_of_unhandled unhandled)]
      exact inside.forM_recorded before
  | .failing handled entered => by
      intro before
      rw [visit_of_handled (recorded_of_handled handled)]
      exact Effect.bind_apply_of_error _ (recordedHandler_of_error entered before)
  | .interrupted handled entered inside => by
      intro before
      rw [visit_of_handled (recorded_of_handled handled),
        Effect.bind_apply_of_ok _ (recordedHandler_of_ok entered before)]
      have failed := inside.forM_recorded (before ++ [.entered node])
      rw [List.append_assoc] at failed
      exact Effect.bind_apply_of_error _ failed
  | .completed handled entered inside leaves => by
      intro before
      rw [visit_of_handled (recorded_of_handled handled),
        Effect.bind_apply_of_ok _ (recordedHandler_of_ok entered before)]
      have walked := inside.forM_recorded (before ++ [.entered node])
      refine (Effect.bind_apply_of_ok _ walked).trans ?_
      rw [leaves.leave_recorded]
      simp

theorem WalksEach.forM_recorded
    {handlers : Handlers σ ε}
    {nodes : List Node}
    {state after : σ}
    {trace : List Event}
    {result : Except ε Unit} :
    WalksEach handlers nodes state trace result after →
      ∀ before, forM nodes (visit (recorded handlers)) (state, before) =
        (result, after, before ++ trace)
  | .nil _ => by
      intro before
      simp
  | .interrupted first => by
      intro before
      rw [List.forM_cons]
      exact Effect.bind_apply_of_error _ (first.visit_recorded before)
  | .cons first others => by
      intro before
      rw [List.forM_cons, Effect.bind_apply_of_ok _ (first.visit_recorded before),
        others.forM_recorded, List.append_assoc]

end

/-! ## Every recorded recursion is an evaluation -/

/-- Every end of a handler is one of the relation. -/
theorem leaves_of_leave
    (node : Node)
    (onExit : Option (Effect σ ε Unit))
    (state : σ) :
    ∃ exits,
      Leaves node onExit state exits (leave onExit state).1 (leave onExit state).2 := by
  cases onExit with
  | none => exact ⟨[], .silently state⟩
  | some action => exact ⟨[.left node], .calling rfl⟩

/-- A node whose handler succeeded has a trace if the children that it asked for have
one. -/
theorem walks_of_entered
    {handlers : Handlers σ ε}
    {node : Node}
    {handler : Handler σ ε}
    {state middle : σ}
    {outcome : Outcome σ ε}
    (handled : handlers node.kind = some handler)
    (entered : handler node state = (.ok outcome, middle))
    (inside : ∃ trace,
      WalksEach handlers (outcome.asked node) middle trace
        (forM (outcome.asked node) (visit handlers) middle).1
        (forM (outcome.asked node) (visit handlers) middle).2) :
    ∃ trace,
      Walks handlers node state trace
        (visit handlers node state).1 (visit handlers node state).2 := by
  rw [visit_of_handled handled, Effect.bind_apply_of_ok _ entered, Effect.bind_apply]
  obtain ⟨trace, inside⟩ := inside
  cases walked : forM (outcome.asked node) (visit handlers) middle with
  | mk result finished =>
      rw [walked] at inside
      cases result with
      | error failure => exact ⟨_, .interrupted handled entered inside⟩
      | ok value =>
          obtain ⟨exits, leaves⟩ := leaves_of_leave node outcome.onExit finished
          exact ⟨_, .completed handled entered inside leaves⟩

/-- A walk over a list starts with a walk over its first node. -/
theorem walksEach_cons_of_visit
    {handlers : Handlers σ ε}
    {node : Node}
    {rest : List Node}
    {state : σ}
    (first : ∃ trace,
      Walks handlers node state trace
        (visit handlers node state).1 (visit handlers node state).2)
    (others : ∀ state, ∃ trace,
      WalksEach handlers rest state trace
        (forM rest (visit handlers) state).1 (forM rest (visit handlers) state).2) :
    ∃ trace,
      WalksEach handlers (node :: rest) state trace
        (forM (node :: rest) (visit handlers) state).1
        (forM (node :: rest) (visit handlers) state).2 := by
  rw [List.forM_cons, Effect.bind_apply]
  obtain ⟨front, first⟩ := first
  cases visited : visit handlers node state with
  | mk result middle =>
      rw [visited] at first
      cases result with
      | error failure => exact ⟨front, .interrupted first⟩
      | ok value =>
          obtain ⟨back, others⟩ := others middle
          exact ⟨front ++ back, .cons first others⟩

mutual

/-- Every walk of a node has a trace, with the result and the state of the recursion. -/
theorem walks_of_visit (handlers : Handlers σ ε) :
    (node : Node) → (state : σ) →
      ∃ trace,
        Walks handlers node state trace
          (visit handlers node state).1 (visit handlers node state).2
  | .mk label children, state => by
      have walked := walksEach_of_visit handlers children
      cases found : handlers label.kind with
      | none =>
          have unhandled : handlers (Node.mk label children).kind = none := found
          rw [visit_of_unhandled unhandled]
          obtain ⟨trace, inside⟩ := walked state
          exact ⟨trace, .passing unhandled inside⟩
      | some handler =>
          have handled : handlers (Node.mk label children).kind = some handler := found
          cases entered : handler (.mk label children) state with
          | mk result middle =>
              cases result with
              | error failure =>
                  rw [visit_of_handled handled, Effect.bind_apply_of_error _ entered]
                  exact ⟨_, .failing handled entered⟩
              | ok outcome =>
                  apply walks_of_entered handled entered
                  unfold Outcome.asked
                  split
                  · exact walked middle
                  · exact ⟨[], .nil middle⟩

/-- The same for the named trees of a forest. -/
theorem walksEach_of_visit (handlers : Handlers σ ε) :
    (nodes : List Node) → (state : σ) →
      ∃ trace,
        WalksEach handlers (nodes.filter Node.named) state trace
          (forM (nodes.filter Node.named) (visit handlers) state).1
          (forM (nodes.filter Node.named) (visit handlers) state).2
  | [], state => ⟨[], .nil state⟩
  | node :: rest, state => by
      have first := walks_of_visit handlers node
      have others := walksEach_of_visit handlers rest
      rw [List.filter_cons]
      split
      · exact walksEach_cons_of_visit (first state) others
      · exact others state

end

/-- The recorded walk is the evaluation, from the empty trace on. -/
theorem walks_iff_run_recorded
    (handlers : Handlers σ ε)
    (node : Node)
    (state : σ)
    (trace : List Event)
    (result : Except ε Unit)
    (after : σ) :
    Walks handlers node state trace result after ↔
      run (recorded handlers) node (state, []) = (result, after, trace) := by
  rw [run_eq_visit]
  constructor
  · intro walks
    exact walks.visit_recorded []
  · intro visited
    obtain ⟨found, walks⟩ := walks_of_visit handlers node state
    have same := (walks.visit_recorded []).symm.trans visited
    obtain ⟨sameResult, sameRest⟩ := Prod.mk.inj same
    obtain ⟨sameState, sameTrace⟩ := Prod.mk.inj sameRest
    rw [sameResult, sameState, ← List.nil_append found, sameTrace] at walks
    exact walks

/-! ## After a failure -/

/-- A call that fails, and leaves a state behind. -/
def Event.Fails (handlers : Handlers σ ε) (failure : ε) (after : σ) : Event → Prop
  | .entered node =>
      ∃ handler state,
        handlers node.kind = some handler ∧ handler node state = (.error failure, after)
  | .left node =>
      ∃ handler state outcome middle action finished,
        handlers node.kind = some handler ∧
          handler node state = (.ok outcome, middle) ∧
          outcome.onExit = some action ∧ action finished = (.error failure, after)

theorem Leaves.action_of_error
    {node : Node}
    {onExit : Option (Effect σ ε Unit)}
    {state after : σ}
    {exits : List Event}
    {failure : ε}
    (leaves : Leaves node onExit state exits (.error failure) after) :
    exits = [.left node] ∧
      ∃ action, onExit = some action ∧ action state = (.error failure, after) := by
  cases leaves with
  | calling called => exact ⟨rfl, _, rfl, called⟩

mutual

/-- The last call of a walk that fails is the call that failed. -/
theorem Walks.fails_last
    {handlers : Handlers σ ε}
    {node : Node}
    {state after : σ}
    {trace : List Event}
    {result : Except ε Unit} :
    Walks handlers node state trace result after →
      ∀ failure, result = .error failure →
        ∃ front event, trace = front ++ [event] ∧ event.Fails handlers failure after
  | .passing _ inside => inside.fails_last
  | .failing handled entered => by
      rintro failure ⟨⟩
      exact ⟨[], _, rfl, _, _, handled, entered⟩
  | .interrupted _ _ inside => by
      rintro failure ⟨⟩
      obtain ⟨front, event, rfl, fails⟩ := inside.fails_last _ rfl
      exact ⟨.entered node :: front, event, rfl, fails⟩
  | .completed handled entered _ leaves => by
      rintro failure rfl
      obtain ⟨rfl, action, exitAction, called⟩ := leaves.action_of_error
      exact ⟨.entered node :: _, .left node, rfl,
        _, _, _, _, action, _, handled, entered, exitAction, called⟩

/-- A failure is the last event of a walk over a list. -/
theorem WalksEach.fails_last
    {handlers : Handlers σ ε}
    {nodes : List Node}
    {state after : σ}
    {trace : List Event}
    {result : Except ε Unit} :
    WalksEach handlers nodes state trace result after →
      ∀ failure, result = .error failure →
        ∃ front event, trace = front ++ [event] ∧ event.Fails handlers failure after
  | .nil _ => by
      rintro failure ⟨⟩
  | .interrupted first => first.fails_last
  | .cons _ others => by
      intro failure failed
      obtain ⟨front, event, rfl, fails⟩ := others.fails_last failure failed
      exact ⟨_ ++ front, event, (List.append_assoc _ _ _).symm, fails⟩

end

/-- The walk with pending work is the recursion, whatever is pending behind it.  Its
calls are those of the evaluation, with the same order, result and state, and recording
them changes nothing; a call that fails is the last one. -/
theorem run_follows_recursion
    (handlers : Handlers σ ε)
    (root : Node) :
    run handlers root = visit handlers root ∧
    (∀ rest, runTasks handlers (.enter root :: rest) =
      (do visit handlers root; runTasks handlers rest)) ∧
    (∀ state, ∃ trace,
      Walks handlers root state trace
        (run handlers root state).1 (run handlers root state).2) ∧
    (∀ state trace result after,
      Walks handlers root state trace result after ↔
        run (recorded handlers) root (state, []) = (result, after, trace)) ∧
    (∀ state trace failure after,
      run (recorded handlers) root (state, []) = (.error failure, after, trace) →
        ∃ front event, trace = front ++ [event] ∧ event.Fails handlers failure after) := by
  refine ⟨run_eq_visit handlers root, runTasks_enter_cons handlers root, ?_,
    walks_iff_run_recorded handlers root, ?_⟩
  · rw [run_eq_visit]
    exact walks_of_visit handlers root
  · intro state trace failure after failed
    exact ((walks_iff_run_recorded handlers root _ _ _ _).mpr failed).fails_last failure rfl

end Walk
end ComponentOutline
