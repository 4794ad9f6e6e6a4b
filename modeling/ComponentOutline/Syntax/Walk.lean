import ComponentOutline.Effect
import ComponentOutline.Syntax.Node

/-!
# Walking a tree

A walk goes through the named nodes of a tree in pre-order.  Where the kind of a
node has a handler, the handler decides: the children are walked exactly if it asks
for them at least once, and it may leave behind an action that runs after the
node's whole subtree.  A node without a handler is passed through.  Handlers change
a state and may fail; a failure ends the walk, and the state is that of the moment
of failure.

`Walk.run` keeps the pending work in a list, so that the depth of a tree costs no
recursion.  `Walk.visit` is the same walk as a plain recursion on the tree.
-/

namespace ComponentOutline

namespace Walk

/-- What a handler leaves behind. -/
structure Outcome (σ ε : Type) where
  /-- How often the handler asked for the children. -/
  descents : Nat
  /-- What runs after the subtree. -/
  onExit : Option (Effect σ ε Unit)

/-- What is done at a node. -/
abbrev Handler (σ ε : Type) := Node → Effect σ ε (Outcome σ ε)

/-- The handlers by kind of node. -/
abbrev Handlers (σ ε : Type) := String → Option (Handler σ ε)

variable {σ ε : Type}

/-- Walk the children, and leave nothing behind. -/
def Outcome.descend : Outcome σ ε :=
  ⟨1, none⟩

/-- Skip the children, and leave nothing behind. -/
def Outcome.prune : Outcome σ ε :=
  ⟨0, none⟩

/-- Walk the children, and then run an action. -/
def Outcome.descendThen (action : Effect σ ε Unit) : Outcome σ ε :=
  ⟨1, some action⟩

/-- Runs the action that a handler may have left behind. -/
def leave : Option (Effect σ ε Unit) → Effect σ ε Unit
  | none => pure ()
  | some action => action

mutual

/-- The walk of a tree by recursion. -/
def visit (handlers : Handlers σ ε) : Node → Effect σ ε Unit
  | .mk label children =>
      match handlers label.kind with
      | none => visitAll handlers children
      | some handler => do
          let outcome ← handler (.mk label children)
          if outcome.descents ≠ 0 then
            visitAll handlers children
          leave outcome.onExit

/-- The walk of the named trees of a forest, from left to right, by recursion. -/
def visitAll (handlers : Handlers σ ε) : List Node → Effect σ ε Unit
  | [] => pure ()
  | node :: rest => do
      if node.named then
        visit handlers node
      visitAll handlers rest

end

/-- A piece of pending work: a node to enter, or an action to run on leaving one. -/
inductive Task (σ ε : Type) where
  | enter (node : Node)
  | leave (action : Effect σ ε Unit)

/-- The work that is left when the children of a node are asked for. -/
def childTasks (node : Node) : List (Task σ ε) :=
  node.namedChildren.map .enter

/-- The work that an outcome adds in front of the rest. -/
def Outcome.tasks (node : Node) (outcome : Outcome σ ε) : List (Task σ ε) :=
  (if outcome.descents ≠ 0 then childTasks node else []) ++
    (outcome.onExit.map Task.leave).toList

/-- A bound on the work that is still to be done. -/
def weight : List (Task σ ε) → Nat
  | [] => 0
  | .enter node :: rest => 2 * node.size + weight rest
  | .leave _ :: rest => 1 + weight rest

theorem weight_append (front back : List (Task σ ε)) :
    weight (front ++ back) = weight front + weight back := by
  induction front with
  | nil => simp [weight]
  | cons task rest inductionHypothesis =>
      cases task with
      | enter node =>
          simp only [List.cons_append, weight, inductionHypothesis]
          omega
      | leave action =>
          simp only [List.cons_append, weight, inductionHypothesis]
          omega

theorem weight_map_enter (nodes : List Node) :
    weight (nodes.map (Task.enter : Node → Task σ ε)) = 2 * Node.sizeAll nodes := by
  induction nodes with
  | nil => simp [weight, Node.sizeAll]
  | cons node rest inductionHypothesis =>
      simp only [List.map_cons, weight, Node.sizeAll, inductionHypothesis]
      omega

/-- Entering a node leaves less work than there was. -/
theorem weight_childTasks_lt (node : Node) :
    weight (childTasks node : List (Task σ ε)) + 1 < 2 * node.size := by
  have smaller := Node.sizeAll_namedChildren_lt node
  unfold childTasks
  rw [weight_map_enter]
  omega

theorem weight_tasks_lt (node : Node) (outcome : Outcome σ ε) :
    weight (outcome.tasks node) < 2 * node.size := by
  have children := @weight_childTasks_lt σ ε node
  have positive := Node.size_pos node
  have leaving : weight ((outcome.onExit.map Task.leave).toList : List (Task σ ε)) ≤ 1 := by
    cases outcome.onExit with
    | none => simp [weight]
    | some action => simp [weight]
  unfold Outcome.tasks
  rw [weight_append]
  split
  · omega
  · simp only [weight]
    omega

/-- The walk of pending work. -/
def runTasks (handlers : Handlers σ ε) : List (Task σ ε) → Effect σ ε Unit
  | [] => pure ()
  | .leave action :: rest => do
      action
      runTasks handlers rest
  | .enter node :: rest =>
      match handlers node.kind with
      | none => runTasks handlers (childTasks node ++ rest)
      | some handler => do
          let outcome ← handler node
          runTasks handlers (outcome.tasks node ++ rest)
termination_by tasks => weight tasks
decreasing_by
  · simp only [weight]
    omega
  · have smaller := @weight_childTasks_lt σ ε node
    rw [weight_append]
    simp only [weight]
    omega
  · have smaller := weight_tasks_lt node outcome
    rw [weight_append]
    simp only [weight]
    omega

/-- The walk of a tree with the pending work in a list. -/
def run (handlers : Handlers σ ε) (node : Node) : Effect σ ε Unit :=
  runTasks handlers [.enter node]

end Walk
end ComponentOutline
