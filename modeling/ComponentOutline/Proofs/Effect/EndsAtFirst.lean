import ComponentOutline.Effect
import ComponentOutline.Fault.Basic

/-!
# Ending at the first failure

A computation goes over items in order, and whether an item fails can depend on the items
before it.  The computation ends at its first failure: it succeeds if no item fails, and
otherwise it fails as the first failing item does.
-/

namespace ComponentOutline

/-- The failure of a result, if it is one. -/
def failureOf {α : Type} : Except Failure α → Option Failure
  | .ok _ => none
  | .error failure => some failure

/-- The end of a survey with a failure, or without one. -/
def endedBy : Option Failure → Except Failure Unit
  | none => .ok ()
  | some failure => .error failure

section

variable {ι : Type} {failure? : List ι → ι → Option Failure}

/-- The failure of the first item that fails, after the items before. -/
def firstFailure? (failure? : List ι → ι → Option Failure) :
    List ι → List ι → Option Failure
  | _, [] => none
  | before, item :: rest =>
      (failure? before item).or (firstFailure? failure? (before ++ [item]) rest)

/-- Of two stretches the first one decides; the second one is looked at behind it. -/
theorem firstFailure?_append (before front back : List ι) :
    firstFailure? failure? before (front ++ back) =
      (firstFailure? failure? before front).or
        (firstFailure? failure? (before ++ front) back) := by
  induction front generalizing before with
  | nil => simp [firstFailure?]
  | cons item rest inductionHypothesis =>
      simp [firstFailure?, inductionHypothesis, Option.or_assoc]

/-- No item fails after those before it. -/
def NoneFails (failure? : List ι → ι → Option Failure) (items : List ι) : Prop :=
  ∀ before item after, items = before ++ item :: after → failure? before item = none

/-- A result is a success if no item fails, and otherwise it is the failure of the first
item that fails. -/
structure EndsAtFirst
    {α : Type}
    (failure? : List ι → ι → Option Failure)
    (items : List ι)
    (result : Except Failure α) : Prop where
  returns_iff : (∃ value, result = .ok value) ↔ NoneFails failure? items
  fails_iff : ∀ failure,
    result = .error failure ↔
      ∃ before item after,
        items = before ++ item :: after ∧ NoneFails failure? before ∧
          failure? before item = some failure

theorem firstFailure?_eq_none_iff {items : List ι} :
    firstFailure? failure? [] items = none ↔ NoneFails failure? items := by
  constructor
  · rintro allPass before item after rfl
    rw [firstFailure?_append, Option.or_eq_none_iff, List.nil_append, firstFailure?,
      Option.or_eq_none_iff] at allPass
    exact allPass.2.1
  · intro allPass
    -- the items that are done move from the items to those before
    suffices general : ∀ before rest, items = before ++ rest →
        firstFailure? failure? before rest = none from general [] items rfl
    intro before rest
    induction rest generalizing before with
    | nil =>
        intro _
        rfl
    | cons item rest inductionHypothesis =>
        intro split
        have first := allPass before item rest split
        have others := inductionHypothesis (before ++ [item]) (by simpa using split)
        rw [firstFailure?, first, others]
        rfl

/-- The first failure is that of the item behind which all before it pass. -/
theorem firstFailure?_eq_some_iff {items : List ι} {failure : Failure} :
    firstFailure? failure? [] items = some failure ↔
      ∃ before item after,
        items = before ++ item :: after ∧ NoneFails failure? before ∧
          failure? before item = some failure := by
  constructor
  · -- the shortest front with a failure ends right behind the item that fails
    suffices general : ∀ front rest,
        firstFailure? failure? [] front = none →
          firstFailure? failure? front rest = some failure →
            ∃ before item after,
              front ++ rest = before ++ item :: after ∧
                firstFailure? failure? [] before = none ∧
                failure? before item = some failure by
      intro fails
      obtain ⟨before, item, after, split, passed, failed⟩ := general [] items rfl fails
      exact ⟨before, item, after, split, firstFailure?_eq_none_iff.mp passed, failed⟩
    intro front rest
    induction rest generalizing front with
    | nil =>
        intro _ fails
        cases fails
    | cons item rest inductionHypothesis =>
        intro passed fails
        rw [firstFailure?] at fails
        cases first : failure? front item with
        | some found =>
            rw [first, Option.some_or] at fails
            exact ⟨front, item, rest, rfl, passed, first.trans fails⟩
        | none =>
            rw [first, Option.none_or] at fails
            have passedToo : firstFailure? failure? [] (front ++ [item]) = none := by
              rw [firstFailure?_append, passed, List.nil_append, firstFailure?, first]
              rfl
            obtain ⟨before, other, after, split, result⟩ :=
              inductionHypothesis (front ++ [item]) passedToo fails
            exact ⟨before, other, after, by simpa using split, result⟩
  · rintro ⟨before, item, after, rfl, passed, failed⟩
    rw [firstFailure?_append, firstFailure?_eq_none_iff.mpr passed, List.nil_append,
      firstFailure?, failed]
    rfl

/-- A computation with the outcome that the first failure prescribes ends at the first failure. -/
theorem endsAtFirst_of_result
    {α : Type}
    {items : List ι}
    {result : Except Failure α}
    (ended : (result.map fun _ => ()) = endedBy (firstFailure? failure? [] items)) :
    EndsAtFirst failure? items result := by
  cases first : firstFailure? failure? [] items with
  | none =>
      rw [first] at ended
      obtain ⟨value, rfl, -⟩ := Effect.ok_of_except_map ended
      refine ⟨?_, ?_⟩
      · exact iff_of_true ⟨value, rfl⟩ (firstFailure?_eq_none_iff.mp first)
      · intro failure
        rw [← firstFailure?_eq_some_iff, first]
        exact iff_of_false nofun nofun
  | some found =>
      rw [first] at ended
      obtain rfl : result = .error found := by
        cases result with
        | ok value => cases ended
        | error failure => exact congrArg _ (Except.error.inj ended)
      refine ⟨?_, ?_⟩
      · rw [← firstFailure?_eq_none_iff, first]
        exact iff_of_false nofun nofun
      · intro failure
        rw [← firstFailure?_eq_some_iff, first]
        constructor
        · rintro ⟨⟩
          rfl
        · rintro ⟨⟩
          rfl

end

/-! ## Items that fail on their own -/

section

variable {ι κ α β : Type} {failure? : ι → Option Failure}

/-- A result is a failure exactly if one of the items fails, and then it is the failure of
the first of them; what an item does depends on no other. -/
def FailsWith (failure? : ι → Option Failure) (items : List ι) (result : Except Failure α) :
    Prop :=
  failureOf result = items.findSome? failure?

/-- If the items do not look at what stands before them, then the first failure is a plain
search. -/
theorem firstFailure?_of_independent (before items : List ι) :
    firstFailure? (fun _ => failure?) before items = items.findSome? failure? := by
  induction items generalizing before with
  | nil => rfl
  | cons item rest inductionHypothesis =>
      rw [firstFailure?, List.findSome?_cons, inductionHypothesis]
      cases failure? item with
      | none => rfl
      | some failure => rfl

theorem noneFails_of_independent (items : List ι) :
    NoneFails (fun _ => failure?) items ↔ ∀ item ∈ items, failure? item = none := by
  constructor
  · intro noneFails item isItem
    obtain ⟨before, after, split⟩ := List.append_of_mem isItem
    exact noneFails before item after split
  · rintro passed before item after rfl
    exact passed item (List.mem_append_right _ List.mem_cons_self)

namespace FailsWith

variable {items others : List ι} {result : Except Failure α}

/-- A computation that is blamed on its items ends at the first of them that fails. -/
theorem endsAtFirst (fails : FailsWith failure? items result) :
    EndsAtFirst (fun _ => failure?) items result := by
  apply endsAtFirst_of_result
  rw [firstFailure?_of_independent, ← fails]
  cases result with
  | ok value => rfl
  | error failure => rfl

theorem of_ok (value : α) (passed : items.findSome? failure? = none) :
    FailsWith failure? items (.ok value) :=
  passed.symm

/-- The first item is to blame for a failure of its own. -/
theorem of_error
    {item : ι}
    {failure : Failure}
    (failed : failure? item = some failure) :
    FailsWith failure? (item :: items) (.error (α := α) failure) := by
  rw [FailsWith, List.findSome?_cons, failed]
  rfl

/-- Items that pass may stand in front. -/
theorem cons
    {item : ι}
    (passed : failure? item = none)
    (fails : FailsWith failure? items result) :
    FailsWith failure? (item :: items) result := by
  rw [FailsWith, List.findSome?_cons, passed]
  exact fails

theorem map
    (fails : FailsWith failure? items result)
    (function : α → β) :
    FailsWith failure? items (result.map function) := by
  cases result with
  | ok value => exact fails
  | error failure => exact fails

/-- After a step that succeeds, all of the blame is in what follows. -/
theorem bind_of_ok
    {value : α}
    {next : α → Except Failure β}
    (found : result = .ok value)
    (fails : FailsWith failure? items (next value)) :
    FailsWith failure? items (result >>= next) := by
  rw [found]
  exact fails

/-- The items of a second step come after those of the first. -/
theorem bind
    {next : α → Except Failure β}
    (first : FailsWith failure? items result)
    (second : ∀ value, result = .ok value → FailsWith failure? others (next value)) :
    FailsWith failure? (items ++ others) (result >>= next) := by
  rw [FailsWith, List.findSome?_append, ← first]
  cases result with
  | ok value => exact second value rfl
  | error failure => rfl

/-- A list that is worked off element by element is blamed on the items inside of its elements, in
their order. -/
theorem mapM
    {inside : κ → List ι}
    {step : κ → Except Failure α}
    {parts : List κ}
    (each : ∀ part ∈ parts, FailsWith failure? (inside part) (step part)) :
    FailsWith failure? (parts.flatMap inside) (parts.mapM step) := by
  induction parts with
  | nil => exact of_ok [] rfl
  | cons part rest inductionHypothesis =>
      obtain ⟨first, later⟩ := List.forall_mem_cons.mp each
      rw [List.mapM_cons, List.flatMap_cons]
      apply first.bind
      intro value _
      exact (inductionHypothesis later).map (value :: ·)

theorem foldlM
    {inside : κ → List ι}
    {step : α → κ → Except Failure α}
    {parts : List κ}
    (each : ∀ part ∈ parts, ∀ value, FailsWith failure? (inside part) (step value part))
    (value : α) :
    FailsWith failure? (parts.flatMap inside) (parts.foldlM step value) := by
  induction parts generalizing value with
  | nil => exact of_ok value rfl
  | cons part rest inductionHypothesis =>
      obtain ⟨first, later⟩ := List.forall_mem_cons.mp each
      rw [List.foldlM_cons, List.flatMap_cons]
      apply (first value).bind
      intro next _
      exact inductionHypothesis later next

end FailsWith

end

end ComponentOutline
