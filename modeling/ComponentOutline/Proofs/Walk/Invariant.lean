import ComponentOutline.Proofs.Walk.Calls

/-!
# Invariants of the calls of a walk

An invariant says, for a place and for the calls before, what holds whenever a walk stands in
front of the place.  If a handler opens its node for it, and the action that the handler leaves
behind closes the node again, the invariant holds at every call of a whole walk and at its end.
No call comes back to a place of an earlier call, or to a place around one.
-/

namespace ComponentOutline
namespace Walk

variable {σ ε : Type}

/-! ## Ways through a tree -/

theorem not_cons_suffix (index : Nat) (path : List Nat) : ¬ index :: path <:+ path := by
  intro suffix
  have shorter := suffix.length_le
  rw [List.length_cons] at shorter
  omega

/-- What leads through one child does not lead through another. -/
theorem eq_of_cons_suffix
    {index other : Nat}
    {path inner : List Nat}
    (through : index :: path <:+ inner)
    (throughOther : other :: path <:+ inner) :
    index = other := by
  have suffix := List.suffix_of_suffix_length_le through throughOther (by simp)
  exact (List.cons.inj (suffix.eq_of_length (by simp))).1

/-- The way to a child goes on from the ways that the way to its parent leads through. -/
theorem isBelow_cons_iff
    {index : Nat}
    {path outer : List Nat} :
    IsBelow (index :: path) outer ↔ outer <:+ path := by
  rw [IsBelow, List.suffix_cons_iff]
  constructor
  · rintro ⟨same | suffix, different⟩
    · exact absurd same different
    · exact suffix
  · intro suffix
    refine ⟨.inr suffix, ?_⟩
    rintro rfl
    exact not_cons_suffix index path suffix

/-- No handler was called at a place or inside of it. -/
def Untouched (path : List Nat) (calls : List (Call σ)) : Prop :=
  ∀ call ∈ calls, ¬ path <:+ call.place.path

/-- Handlers were called only strictly inside of a place. -/
def AreInside (path : List Nat) (calls : List (Call σ)) : Prop :=
  ∀ call ∈ calls, IsBelow call.place.path path

/-- A way leads through a child of a place, from a position on. -/
def ThroughChild (path : List Nat) (index : Nat) (inner : List Nat) : Prop :=
  ∃ later, index ≤ later ∧ later :: path <:+ inner

/-- A path through a child goes through the node. -/
theorem ThroughChild.suffix
    {path inner : List Nat}
    {index : Nat}
    (through : ThroughChild path index inner) :
    path <:+ inner := by
  obtain ⟨later, _, goesOn⟩ := through
  exact (List.suffix_cons later path).trans goesOn

theorem Untouched.child
    {path : List Nat}
    {calls : List (Call σ)}
    (untouched : Untouched path calls)
    (index : Nat) :
    Untouched (index :: path) calls := by
  intro call isCall through
  exact untouched call isCall ((List.suffix_cons index path).trans through)

/-- A call at a place leaves its children untouched. -/
theorem Untouched.child_after_call
    {place : Place}
    {state : σ}
    {calls : List (Call σ)}
    (untouched : Untouched place.path calls)
    (index : Nat) :
    Untouched (index :: place.path) (calls ++ [⟨place, state⟩]) := by
  refine List.forall_mem_append.mpr ⟨untouched.child index, ?_⟩
  simpa using not_cons_suffix index place.path

/-- A place that two stretches of calls leave alone is left alone by both together. -/
theorem Untouched.append
    {path : List Nat}
    {calls more : List (Call σ)}
    (first : Untouched path calls)
    (second : Untouched path more) :
    Untouched path (calls ++ more) :=
  List.forall_mem_append.mpr ⟨first, second⟩

/-- Calls in one child do not touch another. -/
theorem untouched_of_within
    {index other : Nat}
    {path : List Nat}
    {more : List (Call σ)}
    (different : index ≠ other)
    (within : ∀ call ∈ more, index :: path <:+ call.place.path) :
    Untouched (other :: path) more := by
  intro call isCall through
  exact different (eq_of_cons_suffix (within call isCall) through)

theorem areInside_of_within
    {path : List Nat}
    {index : Nat}
    {more : List (Call σ)}
    (within : ∀ call ∈ more, ThroughChild path index call.place.path) :
    AreInside path more := by
  intro call isCall
  obtain ⟨later, _, through⟩ := within call isCall
  refine ⟨(List.suffix_cons later path).trans through, ?_⟩
  intro same
  rw [← same] at through
  exact not_cons_suffix later path through

/-! ## Invariants -/

section Invariants

variable
  {handlers : Handlers σ ε}
  {Holds : List Node → List Nat → List (Call σ) → σ → Prop}
  {Ends : List (Call σ) → σ → Prop}

/-- What holds at the end: the invariant, or what is left of it after a failure. -/
def Concludes
    (Holds : List Node → List Nat → List (Call σ) → σ → Prop)
    (Ends : List (Call σ) → σ → Prop)
    (ancestors : List Node)
    (path : List Nat)
    (calls : List (Call σ))
    (after : σ) : Except ε Unit → Prop
  | .ok _ => Holds ancestors path calls after
  | .error _ => Ends calls after

/-- What each step of a walk does for an invariant, which says about the way to a place, the
calls so far and the state what holds whenever the walk stands in front of the place. -/
structure Invariant
    (handlers : Handlers σ ε)
    (Holds : List Node → List Nat → List (Call σ) → σ → Prop)
    (Ends : List (Call σ) → σ → Prop) : Prop where
  /-- It does not depend on which child of a node comes next. -/
  beside {ancestors path calls state} (index other : Nat) :
    Holds ancestors (index :: path) calls state →
      Holds ancestors (other :: path) calls state
  /-- A node without a handler makes no difference to it. -/
  passes {place : Place} {calls state} :
    handlers place.node.kind = none →
      (∀ call ∈ calls, call.place.path ≠ place.path) →
        (Holds (place.node :: place.ancestors) (0 :: place.path) calls state ↔
          Holds place.ancestors place.path calls state)
  /-- A handler that fails ends the walk. -/
  fails {place : Place} {calls state handler failure after} :
    handlers place.node.kind = some handler →
      Holds place.ancestors place.path calls state →
        handler place.node state = (.error failure, after) →
          Ends (calls ++ [⟨place, state⟩]) after
  /-- A handler opens its node. -/
  enters {place : Place} {calls state handler outcome after} :
    handlers place.node.kind = some handler →
      Untouched place.path calls →
        Holds place.ancestors place.path calls state →
          handler place.node state = (.ok outcome, after) →
            Holds (place.node :: place.ancestors) (0 :: place.path)
              (calls ++ [⟨place, state⟩]) after
  /-- What a handler leaves behind closes its node. -/
  leaves {place : Place} {calls state handler outcome after inner later} :
    handlers place.node.kind = some handler →
      Untouched place.path calls →
        Holds place.ancestors place.path calls state →
          handler place.node state = (.ok outcome, after) →
            AreInside place.path inner →
              Holds (place.node :: place.ancestors) (0 :: place.path)
                  (calls ++ [⟨place, state⟩] ++ inner) later →
                Concludes Holds Ends place.ancestors place.path
                  (calls ++ [⟨place, state⟩] ++ inner)
                  (leave outcome.onExit later).2 (leave outcome.onExit later).1

/-- An invariant holds at each of some further calls, none of which comes back to a place
with a call or to one around it. -/
inductive HoldsAtEach (Holds : List Node → List Nat → List (Call σ) → σ → Prop) :
    List (Call σ) → List (Call σ) → Prop
  | nil (calls : List (Call σ)) : HoldsAtEach Holds calls []
  | cons {calls : List (Call σ)} {call : Call σ} {rest : List (Call σ)}
      (untouched : Untouched call.place.path calls)
      (holds : Holds call.place.ancestors call.place.path calls call.state)
      (others : HoldsAtEach Holds (calls ++ [call]) rest) :
      HoldsAtEach Holds calls (call :: rest)

/-- What holds at each call of two stretches, one after the other, holds at each of both. -/
theorem HoldsAtEach.append
    {calls front back : List (Call σ)}
    (first : HoldsAtEach Holds calls front)
    (second : HoldsAtEach Holds (calls ++ front) back) :
    HoldsAtEach Holds calls (front ++ back) := by
  induction first with
  | nil calls => simpa using second
  | cons untouched holds _ inductionHypothesis =>
      refine .cons untouched holds (inductionHypothesis ?_)
      simpa using second

theorem HoldsAtEach.of_append
    {calls front back : List (Call σ)}
    (each : HoldsAtEach Holds calls (front ++ back)) :
    HoldsAtEach Holds (calls ++ front) back := by
  induction front generalizing calls with
  | nil => simpa using each
  | cons call rest inductionHypothesis =>
      cases each with
      | cons untouched holds others => simpa using inductionHypothesis others

/-- What holds at a call, given the calls before it. -/
theorem HoldsAtEach.holds_at
    {front back : List (Call σ)}
    {call : Call σ}
    (each : HoldsAtEach Holds [] (front ++ call :: back)) :
    Untouched call.place.path front ∧
      Holds call.place.ancestors call.place.path front call.state := by
  have rest := each.of_append
  rw [List.nil_append] at rest
  cases rest with
  | cons untouched holds _ => exact ⟨untouched, holds⟩

/-- What holds at one of further calls, given at least the calls before them. -/
theorem HoldsAtEach.holds_of_mem
    {before after : List (Call σ)}
    {call : Call σ}
    (each : HoldsAtEach Holds before after)
    (isCall : call ∈ after) :
    ∃ earlier,
      (∀ first ∈ before, first ∈ earlier) ∧ Untouched call.place.path earlier ∧
        Holds call.place.ancestors call.place.path earlier call.state := by
  induction each with
  | nil => cases isCall
  | @cons before first rest untouched holds _ inductionHypothesis =>
      cases isCall with
      | head => exact ⟨before, fun _ isFirst => isFirst, untouched, holds⟩
      | tail _ isLater =>
          obtain ⟨earlier, includes, rest⟩ := inductionHypothesis isLater
          exact ⟨earlier, fun _ isFirst => includes _ (List.mem_append_left _ isFirst), rest⟩

/-- What an invariant says about the calls before a call relates any two calls. -/
theorem HoldsAtEach.pairwise
    {before after : List (Call σ)}
    {related : Call σ → Call σ → Prop}
    (each : HoldsAtEach Holds before after)
    (relates : ∀ earlier first second,
      first ∈ earlier →
        Untouched second.place.path earlier →
          Holds second.place.ancestors second.place.path earlier second.state →
            related first second) :
    after.Pairwise related := by
  induction each with
  | nil => exact .nil
  | @cons before first rest _ _ others inductionHypothesis =>
      refine .cons (fun second isLater => ?_) inductionHypothesis
      obtain ⟨earlier, includes, untouched, holds⟩ := others.holds_of_mem isLater
      exact relates earlier first second (includes first (by simp)) untouched holds

/-! ## What a part of a walk comes to -/

/-- Further calls of a walk: where they are, and that an invariant holds at each. -/
structure Adds
    (Holds : List Node → List Nat → List (Call σ) → σ → Prop)
    (root : Node)
    (within : List Nat → Prop)
    (calls more : List (Call σ)) : Prop where
  within : ∀ call ∈ more, within call.place.path
  isIn : ∀ call ∈ more, call.place.IsIn root
  holds : HoldsAtEach Holds calls more

theorem adds_nil
    (root : Node)
    (within : List Nat → Prop)
    (calls : List (Call σ)) :
    Adds Holds root within calls [] :=
  ⟨by simp, by simp, .nil calls⟩

theorem adds_singleton
    {root : Node}
    {place : Place}
    {calls : List (Call σ)}
    {state : σ}
    (isIn : place.IsIn root)
    (untouched : Untouched place.path calls)
    (holds : Holds place.ancestors place.path calls state) :
    Adds Holds root (place.path <:+ ·) calls [⟨place, state⟩] where
  within := by simp
  isIn := by simpa using isIn
  holds := .cons untouched holds (.nil _)

/-- Two stretches of calls in the same subtree make up one. -/
theorem Adds.append
    {root : Node}
    {within : List Nat → Prop}
    {calls front back : List (Call σ)}
    (first : Adds Holds root within calls front)
    (second : Adds Holds root within (calls ++ front) back) :
    Adds Holds root within calls (front ++ back) where
  within := List.forall_mem_append.mpr ⟨first.within, second.within⟩
  isIn := List.forall_mem_append.mpr ⟨first.isIn, second.isIn⟩
  holds := first.holds.append second.holds

theorem Adds.mono
    {root : Node}
    {within wider : List Nat → Prop}
    {calls more : List (Call σ)}
    (adds : Adds Holds root within calls more)
    (widens : ∀ path, within path → wider path) :
    Adds Holds root wider calls more where
  within := fun call isCall => widens _ (adds.within call isCall)
  isIn := adds.isIn
  holds := adds.holds

/-- What a walk of a part of the tree comes to: further calls, and what holds at the end. -/
def Continues
    (Holds : List Node → List Nat → List (Call σ) → σ → Prop)
    (Ends : List (Call σ) → σ → Prop)
    (root : Node)
    (within : List Nat → Prop)
    (ancestors : List Node)
    (path : List Nat)
    (calls : List (Call σ))
    (walked : Except ε Unit × σ × List (Call σ)) : Prop :=
  ∃ more,
    walked.2.2 = calls ++ more ∧
      Adds Holds root within calls more ∧
        Concludes Holds Ends ancestors path (calls ++ more) walked.2.1 walked.1

/-- One piece of work after another: the calls of the second follow those of the first. -/
theorem Continues.bind
    {root : Node}
    {within wider : List Nat → Prop}
    {ancestors around : List Node}
    {path way : List Nat}
    {calls : List (Call σ)}
    {state : σ}
    {first second : Effect (σ × List (Call σ)) ε Unit}
    (begins : Continues Holds Ends root within ancestors path calls (first (state, calls)))
    (widens : ∀ inner, within inner → wider inner)
    (goesOn : ∀ more later,
      Adds Holds root within calls more →
        Holds ancestors path (calls ++ more) later →
          Continues Holds Ends root wider around way (calls ++ more)
            (second (later, calls ++ more))) :
    Continues Holds Ends root wider around way calls
      ((first >>= fun _ => second) (state, calls)) := by
  obtain ⟨more, listed, adds, concludes⟩ := begins
  rw [Effect.bind_apply]
  cases walked : first (state, calls) with
  | mk result rest =>
      obtain ⟨later, list⟩ := rest
      rw [walked] at listed concludes
      change list = calls ++ more at listed
      subst listed
      cases result with
      | error failure => exact ⟨more, rfl, adds.mono widens, concludes⟩
      | ok value =>
          obtain ⟨further, listed, addsFurther, concludes⟩ := goesOn more later adds concludes
          refine ⟨more ++ further, ?_, (adds.mono widens).append addsFurther, ?_⟩
          · rw [listed, List.append_assoc]
          · rw [← List.append_assoc]
            exact concludes

/-- A node that is walked after its handler was called: the calls inside of it follow the
call of its handler, and the node is left at the end. -/
theorem Invariant.continues_of_entered
    (invariant : Invariant handlers Holds Ends)
    {root : Node}
    {place : Place}
    {calls : List (Call σ)}
    {state after : σ}
    {handler : Handler σ ε}
    {outcome : Outcome σ ε}
    {inside : Effect (σ × List (Call σ)) ε Unit}
    (isIn : place.IsIn root)
    (handled : handlers place.node.kind = some handler)
    (untouched : Untouched place.path calls)
    (holds : Holds place.ancestors place.path calls state)
    (entered : handler place.node state = (.ok outcome, after))
    (continues : Continues Holds Ends root (ThroughChild place.path 0)
      (place.node :: place.ancestors) (0 :: place.path) (calls ++ [⟨place, state⟩])
      (inside (after, calls ++ [⟨place, state⟩]))) :
    Continues Holds Ends root (place.path <:+ ·) place.ancestors place.path calls
      ((inside >>= fun _ => leave (outcome.onExit.map unwatched) :
          Effect (σ × List (Call σ)) ε Unit)
        (after, calls ++ [⟨place, state⟩])) := by
  have followed : Continues Holds Ends root (place.path <:+ ·) place.ancestors place.path
      (calls ++ [⟨place, state⟩])
      ((inside >>= fun _ => leave (outcome.onExit.map unwatched) :
          Effect (σ × List (Call σ)) ε Unit)
        (after, calls ++ [⟨place, state⟩])) := by
    refine continues.bind (fun inner through => through.suffix) ?_
    intro more later adds holdsInside
    rw [leave_unwatched]
    refine ⟨[], (List.append_nil _).symm, adds_nil root _ _, ?_⟩
    rw [List.append_nil]
    exact invariant.leaves handled untouched holds entered (areInside_of_within adds.within)
      holdsInside
  obtain ⟨more, listed, adds, concludes⟩ := followed
  refine ⟨[⟨place, state⟩] ++ more, ?_, ?_, ?_⟩
  · rw [listed, List.append_assoc]
  · exact (adds_singleton isIn untouched holds).append adds
  · rw [← List.append_assoc]
    exact concludes

/-! ## Walks -/

/-- A node without a handler comes to what its children come to. -/
theorem Invariant.continues_of_passed
    (invariant : Invariant handlers Holds Ends)
    {root : Node}
    {place : Place}
    {calls : List (Call σ)}
    {walked : Except ε Unit × σ × List (Call σ)}
    (unhandled : handlers place.node.kind = none)
    (notHere : ∀ call ∈ calls, call.place.path ≠ place.path)
    (continues : Continues Holds Ends root (ThroughChild place.path 0)
      (place.node :: place.ancestors) (0 :: place.path) calls walked) :
    Continues Holds Ends root (place.path <:+ ·) place.ancestors place.path calls walked := by
  obtain ⟨more, listed, adds, concludes⟩ := continues
  refine ⟨more, listed, adds.mono fun path through => through.suffix, ?_⟩
  have notBelow : ∀ call ∈ calls ++ more, call.place.path ≠ place.path := by
    refine List.forall_mem_append.mpr ⟨notHere, fun call isCall same => ?_⟩
    exact (areInside_of_within adds.within call isCall).2 same.symm
  obtain ⟨result, after, list⟩ := walked
  cases result with
  | error failure => exact concludes
  | ok value => exact (invariant.passes unhandled notBelow).mp concludes

/-- Work that does nothing adds no calls. -/
theorem continues_pure
    {root : Node}
    {within : List Nat → Prop}
    {ancestors : List Node}
    {path : List Nat}
    {calls : List (Call σ)}
    {state : σ}
    (holds : Holds ancestors path calls state) :
    Continues Holds Ends root within ancestors path calls
      ((pure () : Effect (σ × List (Call σ)) ε Unit) (state, calls)) := by
  refine ⟨[], (List.append_nil calls).symm, adds_nil root within calls, ?_⟩
  rw [List.append_nil]
  exact holds

mutual

/-- An invariant that holds in front of a node holds at every call in the walk of the node,
and behind it if the walk succeeds. -/
theorem Invariant.continues_visitAt
    (invariant : Invariant handlers Holds Ends)
    {root : Node} :
    (node : Node) → {ancestors : List Node} → {path : List Nat} →
      {calls : List (Call σ)} → {state : σ} →
        Place.IsIn root ⟨⟨ancestors, node⟩, path⟩ →
          Untouched path calls →
            Holds ancestors path calls state →
              Continues Holds Ends root (path <:+ ·) ancestors path calls
                (visitAt (watchedAt handlers) ancestors path node (state, calls))
  | .mk label children, ancestors, path, calls, state, isIn, untouched, holds => by
      let place : Place := ⟨⟨ancestors, .mk label children⟩, path⟩
      have walked {before : List (Call σ)} {current : σ} :
          (∀ later, 0 ≤ later → Untouched (later :: path) before) →
            Holds (place.node :: ancestors) (0 :: path) before current →
              Continues Holds Ends root (ThroughChild path 0)
                (place.node :: ancestors) (0 :: path) before
                (visitAllAt (watchedAt handlers) place 0 children (current, before)) :=
        invariant.continues_visitAllAt children 0 rfl isIn
      change Continues Holds Ends root (place.path <:+ ·) place.ancestors place.path calls
        (visitAt (watchedAt handlers) place.ancestors place.path place.node (state, calls))
      cases handled : handlers place.node.kind with
      | none =>
          have notHere : ∀ call ∈ calls, call.place.path ≠ path := by
            intro call isCall same
            exact untouched call isCall (by rw [same])
          rw [visitAt_of_unhandled (watchedAt_of_unhandled handled)]
          exact invariant.continues_of_passed handled notHere
            (walked (fun later _ => untouched.child later)
              ((invariant.passes handled notHere).mpr holds))
      | some handler =>
          rw [visitAt_of_handled (watchedAt_of_handled handled), Effect.bind_apply,
            watching_apply]
          cases entered : handler place.node state with
          | mk result after =>
              cases result with
              | error failure =>
                  exact ⟨[⟨place, state⟩], rfl, adds_singleton isIn untouched holds,
                    invariant.fails handled holds entered⟩
              | ok outcome =>
                  have opened := invariant.enters handled untouched holds entered
                  refine invariant.continues_of_entered isIn handled untouched holds entered ?_
                  -- The node is left in the same way whether its children were asked for or not.
                  split
                  · exact walked (fun later _ => untouched.child_after_call later) opened
                  · exact continues_pure opened

/-- The walk over some children of a node keeps the invariant, child by child. -/
theorem Invariant.continues_visitAllAt
    (invariant : Invariant handlers Holds Ends)
    {root : Node} :
    (nodes : List Node) → (index : Nat) → {parent : Place} →
      {calls : List (Call σ)} → {state : σ} →
        parent.node.children.drop index = nodes →
          parent.IsIn root →
            (∀ later, index ≤ later → Untouched (later :: parent.path) calls) →
              Holds (parent.node :: parent.ancestors) (index :: parent.path) calls state →
                Continues Holds Ends root (ThroughChild parent.path index)
                  (parent.node :: parent.ancestors) (0 :: parent.path) calls
                  (visitAllAt (watchedAt handlers) parent index nodes (state, calls))
  | [], index, parent, calls, state, _, _, _, holds => by
      rw [visitAllAt]
      exact continues_pure (invariant.beside index 0 holds)
  | node :: rest, index, parent, calls, state, those, isIn, untouched, holds => by
      have isChild : parent.node.children[index]? = some node := by
        rw [← List.head?_drop, those]
        rfl
      have others : parent.node.children.drop (index + 1) = rest := by
        rw [← List.tail_drop, those]
        rfl
      have first : Continues Holds Ends root (index :: parent.path <:+ ·)
          (parent.node :: parent.ancestors) (index :: parent.path) calls
          ((if node.named then
            visitAt (watchedAt handlers) (parent.node :: parent.ancestors) (index :: parent.path)
              node
            else pure ()) (state, calls)) := by
        split
        · exact invariant.continues_visitAt node (.child isIn isChild)
            (untouched index le_rfl) holds
        · exact continues_pure holds
      rw [visitAllAt_cons]
      refine first.bind (fun inner through => ⟨index, le_rfl, through⟩) ?_
      intro more later adds holdsAfter
      -- The calls so far are in the first child, so the children after it are still untouched.
      have untouchedAfter : ∀ next, index + 1 ≤ next →
          Untouched (next :: parent.path) (calls ++ more) := by
        intro next further
        exact (untouched next (by omega)).append
          (untouched_of_within (by omega) adds.within)
      have continues := invariant.continues_visitAllAt rest (index + 1) others isIn
        untouchedAfter (invariant.beside index (index + 1) holdsAfter)
      obtain ⟨further, listed, addsFurther, concludes⟩ := continues
      refine ⟨further, listed, addsFurther.mono ?_, concludes⟩
      rintro inner ⟨next, atLeast, through⟩
      exact ⟨next, by omega, through⟩

end

/-- An invariant that holds in front of a tree holds at every call in its walk and, if the
walk succeeds, at the end. -/
theorem Invariant.holds_run
    (invariant : Invariant handlers Holds Ends)
    (root : Node)
    {state : σ}
    (holds : Holds [] [] [] state) :
    (∀ call ∈ calls handlers root state, call.place.IsIn root) ∧
      HoldsAtEach Holds [] (calls handlers root state) ∧
        Concludes Holds Ends [] [] (calls handlers root state)
          (run handlers root state).2 (run handlers root state).1 := by
  have continues := invariant.continues_visitAt root .top (List.forall_mem_nil _) holds
  rw [visitAt_watchedAt] at continues
  obtain ⟨more, listed, adds, concludes⟩ := continues
  change calls handlers root state = [] ++ more at listed
  rw [List.nil_append] at listed concludes
  rw [listed]
  exact ⟨adds.isIn, adds.holds, concludes⟩

end Invariants

end Walk
end ComponentOutline
