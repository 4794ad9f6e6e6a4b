import ComponentOutline.Syntax.Walk

/-!
# The walk as a recursion

The walk that keeps its pending work in a list does what the plain recursion on the
tree does: the same calls in the same order, the same result and the same state.
Pending work is done from the front, so that the work which a node adds is finished
before anything that was pending behind it; this is the invariant that carries the
comparison.  The recursion itself is then read as one equation for nodes with a
handler and one for nodes without.
-/

namespace ComponentOutline
namespace Walk

variable {σ ε : Type}

/-- The front of the pending work is finished before the back is begun. -/
theorem runTasks_append
    (handlers : Handlers σ ε)
    (front back : List (Task σ ε)) :
    runTasks handlers (front ++ back) =
      (do runTasks handlers front; runTasks handlers back) := by
  fun_induction runTasks handlers front with
  | case1 => simp
  | case2 action rest inductionHypothesis =>
      simp only [List.cons_append, runTasks, inductionHypothesis, bind_assoc]
  | case3 node rest unhandled inductionHypothesis =>
      rw [List.cons_append, runTasks]
      simp only [unhandled]
      rw [← List.append_assoc, inductionHypothesis]
  | case4 node rest handler handled inductionHypothesis =>
      rw [List.cons_append, runTasks]
      simp only [handled, bind_assoc]
      congr 1
      funext outcome
      rw [← List.append_assoc, inductionHypothesis]

theorem runTasks_leave
    (handlers : Handlers σ ε)
    (onExit : Option (Effect σ ε Unit)) :
    runTasks handlers (onExit.map Task.leave).toList = leave onExit := by
  cases onExit with
  | none => simp [runTasks, leave]
  | some action => simp [runTasks, leave]

mutual

/-- The walk with pending work is the recursion on the tree. -/
theorem run_eq_visit (handlers : Handlers σ ε) :
    (node : Node) → run handlers node = visit handlers node
  | .mk label children => by
      have inside := runTasks_enter_eq_visitAll handlers children
      unfold run
      rw [runTasks, visit]
      change (match handlers label.kind with
        | none => _
        | some handler => _) = _
      cases handlers label.kind with
      | none => simpa [childTasks, Node.namedChildren] using inside
      | some handler =>
          simp only
          congr 1
          funext outcome
          rw [Outcome.tasks, List.append_nil, runTasks_append, runTasks_leave]
          split
          · rw [← inside]
            rfl
          · simp [runTasks]

/-- Entering the named nodes of a forest one by one is the recursion on the forest. -/
theorem runTasks_enter_eq_visitAll (handlers : Handlers σ ε) :
    (nodes : List Node) →
      runTasks handlers ((nodes.filter Node.named).map Task.enter) =
        visitAll handlers nodes
  | [] => by simp [runTasks, visitAll]
  | node :: rest => by
      have first := run_eq_visit handlers node
      have others := runTasks_enter_eq_visitAll handlers rest
      rw [visitAll, ← others]
      cases named : node.named with
      | false => simp [named]
      | true =>
          rw [List.filter_cons_of_pos named, List.map_cons, ← List.singleton_append,
            runTasks_append, ← first]
          simp [run]

end

/-- Whatever is pending behind a node waits until the node is done. -/
theorem runTasks_enter_cons
    (handlers : Handlers σ ε)
    (node : Node)
    (rest : List (Task σ ε)) :
    runTasks handlers (.enter node :: rest) =
      (do visit handlers node; runTasks handlers rest) := by
  rw [← List.singleton_append, runTasks_append, ← run_eq_visit]
  rfl

/-- The walk of a forest goes through its named trees from left to right. -/
theorem visitAll_eq_forM
    (handlers : Handlers σ ε)
    (nodes : List Node) :
    visitAll handlers nodes = forM (nodes.filter Node.named) (visit handlers) := by
  induction nodes with
  | nil => rfl
  | cons node rest inductionHypothesis =>
      rw [visitAll, inductionHypothesis]
      cases named : node.named with
      | false => simp [named]
      | true => simp [named]

/-- The children that an outcome asks for. -/
def Outcome.asked (node : Node) (outcome : Outcome σ ε) : List Node :=
  if outcome.descents ≠ 0 then node.namedChildren else []

/-- At a node without a handler its named children are visited. -/
theorem visit_of_unhandled
    {handlers : Handlers σ ε}
    {node : Node}
    (unhandled : handlers node.kind = none) :
    visit handlers node = forM node.namedChildren (visit handlers) := by
  cases node with
  | mk label children =>
      change handlers label.kind = none at unhandled
      rw [visit, unhandled]
      exact visitAll_eq_forM handlers children

/-- A handler is called, then the children that it asks for are visited, then it is left. -/
theorem visit_of_handled
    {handlers : Handlers σ ε}
    {node : Node}
    {handler : Handler σ ε}
    (handled : handlers node.kind = some handler) :
    visit handlers node =
      (do
        let outcome ← handler node
        forM (outcome.asked node) (visit handlers)
        leave outcome.onExit) := by
  cases node with
  | mk label children =>
      change handlers label.kind = some handler at handled
      rw [visit, handled]
      simp only
      congr 1
      funext outcome
      unfold Outcome.asked
      split
      · rw [visitAll_eq_forM]
        rfl
      · simp

end Walk
end ComponentOutline
