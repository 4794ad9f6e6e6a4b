import ComponentOutline.Proofs.Component.Binding
import ComponentOutline.Proofs.Component.Recording
import ComponentOutline.Proofs.Effect.EndsAtFirst
import ComponentOutline.Proofs.Markup.Readable

/-!
# The first failure of a survey

A survey ends at its first failure if one condition holds of a single look and one of what
a look keeps.  The looks that both patterns share come after it: in a tree that can be read
a binding fails exactly if its target is not there, and an element never fails.
-/

namespace ComponentOutline

/-- What follows on a success decides if the first part does not fail. -/
theorem Extracting.bind_ends
    {step next : Extracting Unit}
    {first second : Option Failure}
    {progress : Progress}
    (firstEnds : (step progress).1 = endedBy first)
    (secondEnds : ∀ later,
      step progress = (.ok (), later) → (next later).1 = endedBy second) :
    ((do step; next : Extracting Unit) progress).1 = endedBy (first.or second) := by
  cases stepped : step progress with
  | mk result later =>
      rw [stepped] at firstEnds
      cases first with
      | some failure =>
          obtain rfl : result = .error failure := firstEnds
          rw [Effect.bind_apply_of_error _ stepped]
          rfl
      | none =>
          obtain rfl : result = .ok () := firstEnds
          rw [Effect.bind_apply_of_ok _ stepped]
          exact secondEnds later stepped

section

variable {ι κ : Type} {failure? : List ι → ι → Option Failure}

/-- What is known before an item tells how the look at it ends, and it is known again
after a look that succeeds. -/
structure Foresees
    (failure? : List ι → ι → Option Failure)
    (known : List ι → Progress → Prop)
    (view : κ → ι)
    (look : κ → Extracting Unit)
    (items : List κ) : Prop where
  ends : ∀ before progress, ∀ item ∈ items,
    known before progress → (look item progress).1 = endedBy (failure? before (view item))
  kept : ∀ before progress later, ∀ item ∈ items,
    known before progress → look item progress = (.ok (), later) →
      known (before ++ [view item]) later

namespace Foresees

variable
  {known : List ι → Progress → Prop}
  {view : κ → ι}
  {look : κ → Extracting Unit}

theorem tail
    {item : κ}
    {rest : List κ}
    (foresees : Foresees failure? known view look (item :: rest)) :
    Foresees failure? known view look rest where
  ends := fun before progress other isOther =>
    foresees.ends before progress other (List.mem_cons_of_mem _ isOther)
  kept := fun before progress later other isOther =>
    foresees.kept before progress later other (List.mem_cons_of_mem _ isOther)

/-- A survey ends as its first failing item does. -/
theorem forM_ends
    {items : List κ}
    (foresees : Foresees failure? known view look items) :
    ∀ before progress, known before progress →
      (forM items look progress).1 =
        endedBy (firstFailure? failure? before (items.map view)) := by
  induction items with
  | nil =>
      intro before progress _
      rfl
  | cons item rest inductionHypothesis =>
      intro before progress holds
      rw [List.forM_cons, List.map_cons, firstFailure?]
      apply Extracting.bind_ends
      · exact foresees.ends before progress item List.mem_cons_self holds
      · intro later looked
        exact inductionHypothesis foresees.tail _ _
          (foresees.kept before progress later item List.mem_cons_self holds looked)

/-- What is known goes along with the items that have passed. -/
theorem forM_kept
    {items : List κ}
    (foresees : Foresees failure? known view look items) :
    ∀ before progress later,
      known before progress → forM items look progress = (.ok (), later) →
        known (before ++ items.map view) later := by
  induction items with
  | nil =>
      intro before progress later holds surveyed
      cases surveyed
      simpa using holds
  | cons item rest inductionHypothesis =>
      intro before progress later holds surveyed
      rw [List.forM_cons] at surveyed
      obtain ⟨_, middle, looked, others⟩ := Effect.ok_of_bind_apply surveyed
      have holdsThen :=
        foresees.kept before progress middle item List.mem_cons_self holds looked
      have holdsLater := inductionHypothesis foresees.tail _ _ later holdsThen others
      simpa using holdsLater

end Foresees

end

/-! ## Looks that both patterns share -/

namespace Node

/-- The failure of a node without a usable child under a field: there is none, or error
recovery has put it in. -/
def unusable? (node : Node) (field : String) : Option Failure :=
  if (node.child? field).any fun child => !child.missing then none
  else some (.fault (.malformedNode node.kind field node.line))

/-- A field is required with success or with the failure of the node. -/
theorem requireField_cases (node : Node) (field : String) :
    (∃ child,
      node.child? field = some child ∧ node.requireField field = .ok child ∧
        node.unusable? field = none) ∨
    ∃ failure,
      node.requireField field = .error failure ∧ node.unusable? field = some failure := by
  unfold requireField unusable?
  cases found : node.child? field with
  | none => exact .inr ⟨_, rfl, rfl⟩
  | some child =>
      cases missing : child.missing with
      | true =>
          refine .inr ⟨.fault (.malformedNode node.kind field node.line), ?_, ?_⟩
          · simp [missing]
          · simp [missing]
      | false =>
          refine .inl ⟨child, rfl, ?_, ?_⟩
          · simp [missing]
          · simp [missing]

end Node

namespace Extracting

/-- A binding that can be read fails exactly if its target is not there. -/
theorem lookTarget_ends
    {node : Node}
    (readable : node.IsReadable)
    (field : String)
    (progress : Progress) :
    (lookTarget field node progress).1 = endedBy (node.unusable? field) := by
  unfold lookTarget Node.readTarget
  rw [ofExcept_apply]
  obtain ⟨target, held, required, usable⟩ | ⟨failure, required, unusable⟩ :=
    node.requireField_cases field
  · rw [required, usable]
    obtain ⟨text, read⟩ := Node.IsReadable.readText (readable.of_child? held)
    change Except.map _ (if target.kind == "identifier" then target.readText.map some
      else .ok none) = _
    rw [read]
    split
    · rfl
    · rfl
  · rw [required, unusable]
    rfl

/-- Recording a state ends on whatever its evaluation fails with. -/
theorem recordState_ends (initializer : Node) (progress : Progress) :
    (recordState initializer progress).1 =
      endedBy (failureOf (Literal.componentState initializer)) := by
  unfold recordState Literal.componentState
  cases Literal.stateEntries initializer with
  | error failure => rfl
  | ok entries => rfl

/-- Markup with readable text can always be recorded. -/
theorem recordMarkup_returns
    {element : Node}
    (readable : element.IsReadable)
    (progress : Progress) :
    ∃ later, recordMarkup element progress = (.ok (), later) := by
  obtain ⟨props, propsRead⟩ := Markup.props_ok readable
  obtain ⟨tag, tagRead⟩ := Markup.tagName_ok readable
  obtain ⟨children, after, childrenRead⟩ :=
    Markup.childComponents_ok element readable progress.log
  unfold recordMarkup
  rw [propsRead, tagRead, Effect.bind_apply_of_ok _ (Effect.modify_apply _ _),
    Effect.bind_apply_of_ok _ (ofExcept_apply _ _),
    Effect.bind_apply_of_ok _ (Effect.modify_apply _ _), Effect.bind_apply, ofLogged_apply,
    childrenRead]
  exact ⟨_, rfl⟩

/-- An element that can be read never fails. -/
theorem lookElement_returns
    {element : Node}
    (readable : element.IsReadable)
    (progress : Progress) :
    ∃ later, lookElement element progress = (.ok (), later) := by
  unfold lookElement
  rw [Effect.bind_apply_of_ok _ (Effect.get_apply progress)]
  split
  · exact recordMarkup_returns readable progress
  · exact ⟨progress, rfl⟩

end Extracting
end ComponentOutline
