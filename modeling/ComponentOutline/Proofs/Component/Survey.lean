import ComponentOutline.Proofs.Component.Placement
import ComponentOutline.Proofs.Syntax.Occurrence
import ComponentOutline.Proofs.Walk.Recursion

/-!
# Walks as surveys of places

A visitor pushes what is around a node on a stack when it enters the node, and an exit
action pops it again.  A survey has no such stack: it looks at the places of a tree one
after the other, and what is around a place is known from the place itself.  A walk
whose handlers restore the scope that they open, and which goes into everything but
barriers, does what the survey of the free places does: it ends with the same result,
records the same and writes the same log.
-/

namespace ComponentOutline

open Walk

/-- A walk ends as a look does, with the scope restored if it succeeds. -/
def Agrees
    {α : Type}
    (scope : Scope)
    (before : Log)
    (walked looked : Except Failure α × Progress) : Prop :=
  (∃ value after,
    looked = (.ok value, after) ∧ walked = (.ok value, after.placed scope before)) ∨
  (∃ failure after last,
    looked = (.error failure, after) ∧ walked = (.error failure, after.placed last before))

/-- A handler enters a node as a look does: it succeeds with the inner scope, asks for
the children, and the exit action restores the outer scope. -/
def Enters
    (outer inner : Scope)
    (before : Log)
    (entered : Except Failure Extracting.Outcome × Progress)
    (looked : Except Failure Unit × Progress) : Prop :=
  (∃ outcome after,
    looked = (.ok (), after) ∧ entered = (.ok outcome, after.placed inner before) ∧
      outcome.descents ≠ 0 ∧
      ∀ later : Progress,
        leave outcome.onExit (later.placed inner before) =
          (.ok (), later.placed outer before)) ∨
  (∃ failure after last,
    looked = (.error failure, after) ∧ entered = (.error failure, after.placed last before))

namespace Agrees

variable {α β : Type} {scope inner : Scope} {before : Log}

theorem ok (value : α) (progress : Progress) :
    Agrees scope before (.ok value, progress.placed scope before) (.ok value, progress) :=
  .inl ⟨value, progress, rfl, rfl⟩

/-- A step that ignores where it takes place leads to the same progress from either state. -/
theorem of_ignores
    {step : Extracting α}
    (ignores : Effect.Ignores (Progress.placed scope before) step)
    (progress : Progress) :
    Agrees scope before (step (progress.placed scope before)) (step progress) := by
  rw [ignores]
  cases step progress with
  | mk result after =>
      cases result with
      | ok value => exact .inl ⟨value, after, rfl, rfl⟩
      | error failure => exact .inr ⟨failure, after, scope, rfl, rfl⟩

/-- What follows on a success may rely on what the look has recorded. -/
theorem bind
    {walk look : Extracting α}
    {walkOn lookOn : α → Extracting β}
    {placed progress : Progress}
    (first : Agrees inner before (walk placed) (look progress))
    (second : ∀ value after,
      look progress = (.ok value, after) →
        Agrees scope before (walkOn value (after.placed inner before))
          (lookOn value after)) :
    Agrees scope before ((walk >>= walkOn) placed) ((look >>= lookOn) progress) := by
  obtain ⟨value, after, looked, walked⟩ | ⟨failure, after, last, looked, walked⟩ := first
  · rw [Effect.bind_apply_of_ok _ walked, Effect.bind_apply_of_ok _ looked]
    exact second value after looked
  · rw [Effect.bind_apply_of_error _ walked, Effect.bind_apply_of_error _ looked]
    exact .inr ⟨failure, after, last, rfl, rfl⟩

end Agrees

/-- A node whose handler enters it is surveyed by a look at it and whatever surveys its
children. -/
theorem visit_agrees_of_enters
    {handlers : Handlers Progress Failure}
    {handler : Handler Progress Failure}
    {node : Node}
    {outer inner : Scope}
    {before : Log}
    {look rest : Extracting Unit}
    {progress : Progress}
    (handled : handlers node.kind = some handler)
    (enters : Enters outer inner before
      (handler node (progress.placed outer before)) (look progress))
    (children : ∀ after,
      look progress = (.ok (), after) →
        Agrees inner before
          (forM node.namedChildren (visit handlers) (after.placed inner before))
          (rest after)) :
    Agrees outer before (visit handlers node (progress.placed outer before))
      ((do look; rest) progress) := by
  rw [visit_of_handled handled]
  obtain ⟨outcome, after, looked, entered, descends, restores⟩ |
    ⟨failure, after, last, looked, entered⟩ := enters
  · have asked : outcome.asked node = node.namedChildren := by
      rw [Outcome.asked, if_pos descends]
    rw [Effect.bind_apply_of_ok _ entered, Effect.bind_apply_of_ok _ looked, asked]
    obtain ⟨value, finished, surveyed, walked⟩ |
      ⟨failure, finished, last, surveyed, walked⟩ := children after looked
    · rw [Effect.bind_apply_of_ok _ walked, restores, surveyed]
      exact .ok () finished
    · rw [Effect.bind_apply_of_error _ walked, surveyed]
      exact .inr ⟨failure, finished, last, rfl, rfl⟩
  · rw [Effect.bind_apply_of_error _ entered, Effect.bind_apply_of_error _ looked]
    exact .inr ⟨failure, after, last, rfl, rfl⟩

/-- What a survey of places needs to stand for a walk: what is around a place gives the
scope there, barriers are dealt with by a single look, nodes without a handler are
passed by, and all other handlers enter their node.  A look may rely on what every look
keeps. -/
structure Surveys
    (handlers : Handlers Progress Failure)
    (barrier : Node → Bool)
    (scopeAt : List Node → Scope)
    (before : Log)
    (keeps : Progress → Prop)
    (look : Occurrence → Extracting Unit) : Prop where
  kept : ∀ place progress after,
    keeps progress → look place progress = (.ok (), after) → keeps after
  barred : ∀ around node progress,
    barrier node = true → keeps progress →
      Agrees (scopeAt around) before
        (visit handlers node (progress.placed (scopeAt around) before))
        (look ⟨around, node⟩ progress)
  passed : ∀ around node progress,
    barrier node = false → handlers node.kind = none →
      scopeAt (node :: around) = scopeAt around ∧
        look ⟨around, node⟩ progress = (.ok (), progress)
  entered : ∀ around node handler progress,
    barrier node = false → handlers node.kind = some handler → keeps progress →
      Enters (scopeAt around) (scopeAt (node :: around)) before
        (handler node (progress.placed (scopeAt around) before))
        (look ⟨around, node⟩ progress)

namespace Surveys

variable
  {handlers : Handlers Progress Failure}
  {barrier : Node → Bool}
  {scopeAt : List Node → Scope}
  {before : Log}
  {keeps : Progress → Prop}
  {look : Occurrence → Extracting Unit}

/-- What every look keeps, a survey keeps. -/
theorem kept_forM
    (surveys : Surveys handlers barrier scopeAt before keeps look)
    (places : List Occurrence) :
    ∀ progress after,
      keeps progress → forM places look progress = (.ok (), after) → keeps after := by
  induction places with
  | nil =>
      intro progress after holds surveyed
      cases surveyed
      exact holds
  | cons place rest inductionHypothesis =>
      intro progress after holds surveyed
      rw [List.forM_cons] at surveyed
      obtain ⟨_, middle, first, others⟩ := Effect.ok_of_bind_apply surveyed
      exact inductionHypothesis middle after (surveys.kept _ _ _ holds first) others

mutual

/-- The walk of a node does what the survey of its free places does. -/
theorem visit_agrees
    (surveys : Surveys handlers barrier scopeAt before keeps look)
    (around : List Node) :
    (node : Node) → (progress : Progress) → keeps progress →
      Agrees (scopeAt around) before
        (visit handlers node (progress.placed (scopeAt around) before))
        (forM (Node.exposed barrier around node) look progress)
  | .mk label children, progress, holds => by
      have inside := surveys.forM_agrees (.mk label children :: around) children
      cases barred : barrier (.mk label children) with
      | true =>
          rw [Node.exposed_of_barrier barred]
          have agrees := surveys.barred around _ progress barred holds
          simpa using agrees
      | false =>
          rw [Node.exposed_of_open barred, List.forM_cons]
          cases found : handlers (Node.mk label children).kind with
          | none =>
              obtain ⟨sameScope, looked⟩ := surveys.passed around _ progress barred found
              rw [visit_of_unhandled found, Effect.bind_apply_of_ok _ looked]
              rw [← sameScope]
              exact inside progress holds
          | some handler =>
              apply visit_agrees_of_enters found
                (surveys.entered around _ handler progress barred found holds)
              intro after looked
              exact inside after (surveys.kept _ _ _ holds looked)

/-- A walk over nodes and a look at the places exposed in them lead to the same progress. -/
theorem forM_agrees
    (surveys : Surveys handlers barrier scopeAt before keeps look)
    (around : List Node) :
    (nodes : List Node) → (progress : Progress) → keeps progress →
      Agrees (scopeAt around) before
        (forM (nodes.filter Node.named) (visit handlers)
          (progress.placed (scopeAt around) before))
        (forM (Node.exposedIn barrier around nodes) look progress)
  | [], progress, _ => .ok () progress
  | node :: rest, progress, holds => by
      have first := surveys.visit_agrees around node progress holds
      have others := surveys.forM_agrees around rest
      rw [Node.exposedIn, List.filter_cons]
      split
      · rw [List.forM_cons, List.forM_append]
        apply Agrees.bind first
        intro _ after surveyed
        exact others after (surveys.kept_forM _ progress after holds surveyed)
      · exact others progress holds

end

/-- An extraction that begins after any records ends as the survey of the free places
ends that begins with none, and it has found the same. -/
theorem extract_eq_survey
    (surveys : ∀ before, Surveys handlers barrier scopeAt before keeps look)
    (outermost : scopeAt [] = .outermost)
    (holds : keeps (.start []))
    (pattern : Pattern)
    (root : Node)
    (log : Log) :
    (Extracting.extract pattern handlers root (.start log)).1 =
        (forM (root.reached barrier) look (.start [])).1 ∧
      (Extracting.extract pattern handlers root (.start log)).2.findings =
        (forM (root.reached barrier) look (.start [])).2.findings := by
  let opening : LogRecord :=
    { level := .debug
      writer := .extraction
      message := "Starting " ++ pattern.name ++ " component extraction" }
  have noted :
      Extracting.note ("Starting " ++ pattern.name ++ " component extraction")
          (.start log) =
        (.ok (), (Progress.start []).placed .outermost (log ++ [opening])) := by
    rw [← Progress.start_eq_placed]
    rfl
  have agrees := (surveys (log ++ [opening])).visit_agrees [] root (.start []) holds
  rw [outermost] at agrees
  unfold Extracting.extract
  rw [Node.reached_eq_exposed, Effect.bind_apply_of_ok _ noted, run_eq_visit]
  obtain ⟨_, after, surveyed, walked⟩ | ⟨failure, after, last, surveyed, walked⟩ := agrees
  · rw [Effect.bind_apply_of_ok _ walked, surveyed]
    exact ⟨rfl, rfl⟩
  · rw [Effect.bind_apply_of_error _ walked, surveyed]
    exact ⟨rfl, rfl⟩

/-- An extraction that returns has found what a survey finds. -/
theorem survey_of_extract
    {pattern : Pattern}
    {root : Node}
    {log : Log}
    {progress : Progress}
    (surveys : ∀ before, Surveys handlers barrier scopeAt before keeps look)
    (outermost : scopeAt [] = .outermost)
    (holds : keeps (.start []))
    (extracted : Extracting.extract pattern handlers root (.start log) = (.ok (), progress)) :
    ∃ later,
      forM (root.reached barrier) look (.start []) = (.ok (), later) ∧
        progress.findings = later.findings := by
  obtain ⟨result, findings⟩ := extract_eq_survey surveys outermost holds pattern root log
  rw [extracted] at result findings
  exact ⟨(forM (root.reached barrier) look (.start [])).2, Prod.ext result.symm rfl, findings⟩

/-- An extraction ends alike and finds the same after any earlier records. -/
theorem extract_start
    (surveys : ∀ before, Surveys handlers barrier scopeAt before keeps look)
    (outermost : scopeAt [] = .outermost)
    (holds : keeps (.start []))
    (pattern : Pattern)
    (root : Node)
    (log : Log) :
    (Extracting.extract pattern handlers root (.start log)).1 =
        (Extracting.extract pattern handlers root (.start [])).1 ∧
      (Extracting.extract pattern handlers root (.start log)).2.findings =
        (Extracting.extract pattern handlers root (.start [])).2.findings := by
  obtain ⟨result, findings⟩ := extract_eq_survey surveys outermost holds pattern root log
  obtain ⟨resultAfresh, findingsAfresh⟩ :=
    extract_eq_survey surveys outermost holds pattern root []
  exact ⟨result.trans resultAfresh.symm, findings.trans findingsAfresh.symm⟩

end Surveys
end ComponentOutline
