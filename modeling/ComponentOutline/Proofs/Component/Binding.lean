import ComponentOutline.Proofs.Component.Survey

/-!
# The names bound around a place

A declared variable and an assignment bind a name around their parts.  The names that a
visitor has on its stack are read off the nodes around a place, the nearest first; a
target that is no plain name binds nothing, and it hides the names further out.
-/

namespace ComponentOutline

open Walk

namespace Node

/-- The field in which a declared variable or an assignment holds its target. -/
def targetField? (node : Node) : Option String :=
  if node.kind = "variable_declarator" then some "name"
  else if node.kind = "assignment_expression" then some "left"
  else none

/-- Whether a node binds its target around its parts. -/
def isBinding (node : Node) : Bool :=
  node.targetField?.isSome

theorem isBinding_eq_false
    {node : Node}
    (noDeclarator : node.kind ≠ "variable_declarator")
    (noAssignment : node.kind ≠ "assignment_expression") :
    node.isBinding = false := by
  simp [isBinding, targetField?, noDeclarator, noAssignment]

/-- The name that a node binds; a target that is no plain name has none. -/
def boundName? (node : Node) : Option String := do
  let field ← node.targetField?
  let target ← node.child? field
  if target.kind = "identifier" then target.text.toOption else none

/-- The names bound by nodes around a place, the nearest first. -/
def boundNames (around : List Node) : List (Option String) :=
  (around.filter isBinding).map boundName?

/-- A node that binds something adds its name to the names around. -/
theorem boundNames_cons_of_binding
    {node : Node}
    (binds : node.isBinding = true)
    (around : List Node) :
    boundNames (node :: around) = node.boundName? :: boundNames around := by
  rw [boundNames, List.filter_cons_of_pos binds]
  rfl

theorem boundNames_cons_of_other
    {node : Node}
    (other : node.isBinding = false)
    (around : List Node) :
    boundNames (node :: around) = boundNames around := by
  rw [boundNames, List.filter_cons_of_neg (by simp [other])]
  rfl

/-- The name of the target that a node holds in a field, if it is a plain name. -/
def readTarget (field : String) (node : Node) : Except Failure (Option String) := do
  let target ← node.requireField field
  if target.kind == "identifier" then target.readText.map some else return none

theorem child?_of_requireField
    {node child : Node}
    {field : String}
    (required : node.requireField field = .ok child) :
    node.child? field = some child := by
  unfold requireField at required
  split at required
  · next found present =>
      split at required
      · cases required
      · cases required
        exact present
  · cases required

/-- A target that can be read gives the name that its node binds. -/
theorem boundName?_of_readTarget
    {node : Node}
    {field : String}
    {name : Option String}
    (holds : node.targetField? = some field)
    (read : node.readTarget field = .ok name) :
    node.boundName? = name := by
  obtain ⟨target, required, read⟩ := Effect.ok_of_except_bind read
  simp only [boundName?, holds, child?_of_requireField required, Option.bind_eq_bind,
    Option.bind_some]
  split at read
  · next plain =>
      obtain ⟨text, decoded, rfl⟩ := Effect.ok_of_except_map read
      rw [if_pos (by simpa using plain)]
      rw [readText_eq_ok_iff.mp decoded]
      rfl
  · next plain =>
      cases read
      rw [if_neg (by simpa using plain)]

end Node

/-- The name bound by the nearest binding around a place. -/
def Occurrence.binding? (place : Occurrence) : Option String :=
  (place.ancestors.find? Node.isBinding).bind Node.boundName?

/-- The scope inside of nodes that stand in an outer scope. -/
def Scope.around (outer : Scope) (nodes : List Node) : Scope :=
  ⟨Node.boundNames nodes ++ outer.bindings, outer.inComponent⟩

theorem Scope.around_cons_of_other
    {node : Node}
    (other : node.isBinding = false)
    (outer : Scope)
    (nodes : List Node) :
    outer.around (node :: nodes) = outer.around nodes := by
  rw [Scope.around, Node.boundNames_cons_of_other other]
  rfl

/-- On the stack, the nearest binding comes first. -/
theorem Occurrence.binding?_eq_head (place : Occurrence) :
    place.binding? = (Scope.outermost.around place.ancestors).bindings.head?.join := by
  simp only [Occurrence.binding?, Scope.around, Scope.outermost, Node.boundNames,
    List.append_nil, List.head?_map, List.head?_filter]
  cases place.ancestors.find? Node.isBinding with
  | none => rfl
  | some node => rfl

namespace Extracting

/-- A look at a binding: its target has to be readable. -/
def lookTarget (field : String) (node : Node) : Extracting Unit :=
  ofExcept ((node.readTarget field).map fun _ => ())

/-- A look at a binding records nothing. -/
theorem lookTarget_ok
    {field : String}
    {node : Node}
    {progress later : Progress}
    (looked : lookTarget field node progress = (.ok (), later)) :
    later = progress :=
  (Prod.mk.inj looked).2.symm

/-- Leaving a binding takes its name off the stack. -/
def unbind : Extracting Unit :=
  modify fun progress => { progress with bindings := progress.bindings.tail }

/-- A binding puts the name of its target on the stack, or it fails if that cannot be read. -/
theorem withBinding_apply
    (node : Node)
    (field : String)
    (progress : Progress) :
    (do
      let target ← ofExcept (node.requireField field)
      withBinding target : Extracting Outcome) progress =
      match node.readTarget field with
      | .ok name =>
          (.ok (.descendThen unbind),
            { progress with bindings := name :: progress.bindings })
      | .error failure => (.error failure, progress) := by
  rw [Effect.bind_apply, ofExcept_apply, Node.readTarget]
  cases node.requireField field with
  | error failure => rfl
  | ok target =>
      change withBinding target progress =
        match (if target.kind == "identifier" then target.readText.map some
          else .ok none) with
        | .ok name => _
        | .error failure => _
      unfold withBinding
      split
      · cases target.readText with
        | error failure => rfl
        | ok text => rfl
      · rfl

end Extracting

/-- A binding is entered with its name around its parts, and left without it. -/
theorem enters_binding
    {node : Node}
    {field : String}
    (holds : node.targetField? = some field)
    (outer : Scope)
    (around : List Node)
    (before : Log)
    (progress : Progress) :
    Enters (outer.around around) (outer.around (node :: around)) before
      ((do
        let target ← Extracting.ofExcept (node.requireField field)
        Extracting.withBinding target : Extracting Extracting.Outcome)
          (progress.placed (outer.around around) before))
      (Extracting.lookTarget field node progress) := by
  rw [Extracting.withBinding_apply]
  cases read : node.readTarget field with
  | error failure =>
      refine .inr ⟨failure, progress, outer.around around, ?_, rfl⟩
      simp [Extracting.lookTarget, read, Except.map]
  | ok name =>
      have binds : node.isBinding = true := by
        simp [Node.isBinding, holds]
      have inner : outer.around (node :: around) =
          ⟨name :: (outer.around around).bindings, outer.inComponent⟩ := by
        rw [Scope.around, Node.boundNames_cons_of_binding binds,
          Node.boundName?_of_readTarget holds read]
        rfl
      refine .inl ⟨.descendThen Extracting.unbind, progress, ?_, ?_, Nat.one_ne_zero, ?_⟩
      · simp [Extracting.lookTarget, read, Except.map]
      · rw [inner]
        rfl
      · intro later
        rw [inner]
        rfl

/-- A declarator opens a scope for what stands inside of it. -/
theorem enters_declarator
    {node : Node}
    (kind : node.kind = "variable_declarator")
    (outer : Scope)
    (around : List Node)
    (before : Log)
    (progress : Progress) :
    Enters (outer.around around) (outer.around (node :: around)) before
      (Extracting.enterDeclarator node (progress.placed (outer.around around) before))
      (Extracting.lookTarget "name" node progress) := by
  have holds : node.targetField? = some "name" := by
    simp [Node.targetField?, kind]
  exact enters_binding holds outer around before progress

theorem enters_assignment
    {node : Node}
    (kind : node.kind = "assignment_expression")
    (outer : Scope)
    (around : List Node)
    (before : Log)
    (progress : Progress) :
    Enters (outer.around around) (outer.around (node :: around)) before
      (Extracting.enterAssignment node (progress.placed (outer.around around) before))
      (Extracting.lookTarget "left" node progress) := by
  have holds : node.targetField? = some "left" := by
    simp [Node.targetField?, kind]
  exact enters_binding holds outer around before progress

/-- A handler that looks without regard to the place and asks for the children enters
its node in the scope around it. -/
theorem enters_of_descend
    {scope : Scope}
    {before : Log}
    {look : Extracting Unit}
    (ignores : Effect.Ignores (Progress.placed scope before) look)
    (progress : Progress) :
    Enters scope scope before
      ((do look; return .descend : Extracting Extracting.Outcome)
        (progress.placed scope before))
      (look progress) := by
  obtain ⟨value, after, looked, walked⟩ | ⟨failure, after, last, looked, walked⟩ :=
    Agrees.of_ignores ignores progress
  · rw [Effect.bind_apply_of_ok _ walked]
    exact .inl ⟨.descend, after, looked, rfl, Nat.one_ne_zero, fun later => rfl⟩
  · rw [Effect.bind_apply_of_error _ walked]
    exact .inr ⟨failure, after, last, looked, rfl⟩

/-- A handler may look before it enters its node. -/
theorem enters_of_agrees
    {outer inner : Scope}
    {before : Log}
    {walk look lookOn : Extracting Unit}
    {handler : Extracting Extracting.Outcome}
    {progress : Progress}
    (first : Agrees outer before (walk (progress.placed outer before)) (look progress))
    (second : ∀ after,
      look progress = (.ok (), after) →
        Enters outer inner before (handler (after.placed outer before)) (lookOn after)) :
    Enters outer inner before
      ((do walk; handler) (progress.placed outer before))
      ((do look; lookOn) progress) := by
  obtain ⟨value, after, looked, walked⟩ | ⟨failure, after, last, looked, walked⟩ := first
  · rw [Effect.bind_apply_of_ok _ walked, Effect.bind_apply_of_ok _ looked]
    exact second after looked
  · rw [Effect.bind_apply_of_error _ walked, Effect.bind_apply_of_error _ looked]
    exact .inr ⟨failure, after, last, rfl, rfl⟩

/-- A node that its handler does not go into is dealt with by a look alone. -/
theorem visit_agrees_of_prune
    {handlers : Handlers Progress Failure}
    {handler : Handler Progress Failure}
    {node : Node}
    {scope : Scope}
    {before : Log}
    {look : Extracting Unit}
    {progress : Progress}
    (handled : handlers node.kind = some handler)
    (ignores : Effect.Ignores (Progress.placed scope before) look)
    (prunes : handler node (progress.placed scope before) =
      (do look; return .prune : Extracting Extracting.Outcome)
        (progress.placed scope before)) :
    Agrees scope before (visit handlers node (progress.placed scope before))
      (look progress) := by
  rw [visit_of_handled handled, Effect.bind_apply, prunes, ← Effect.bind_apply]
  have pruned : (do
      look
      let outcome ← (return .prune : Extracting Extracting.Outcome)
      forM (outcome.asked node) (visit handlers)
      leave outcome.onExit) = look := by
    simp [Outcome.prune, Outcome.asked, leave]
  rw [bind_assoc, pruned]
  exact Agrees.of_ignores ignores progress

end ComponentOutline
