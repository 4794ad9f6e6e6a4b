import ComponentOutline.Parsing.RecentCache
import Mathlib.Data.Finset.Card

/-!
# What a cache of recent results keeps

The keys that a cache was asked for, in the order of time, are its history.  What it keeps is
determined by the history alone: the keys in the order of their last use, the latest first,
as many as fit.  A key is therefore kept exactly if it was used before and fewer other keys
than fit were used since.
-/

namespace ComponentOutline
namespace RecentCache

variable {κ α : Type}

/-! ## Capacities -/

/-- The number of keys, as many as fit. -/
def capped (capacity : Option Nat) (count : Nat) : Nat :=
  match capacity with
  | some bound => min bound count
  | none => count

/-- The first keys, as many as fit. -/
def fitting (capacity : Option Nat) (keys : List κ) : List κ :=
  match capacity with
  | some bound => keys.take bound
  | none => keys

/-- What is kept depends on the keys alone. -/
theorem map_fst_restrict (capacity : Option Nat) (entries : List (κ × α)) :
    (restrict capacity entries).map Prod.fst = fitting capacity (entries.map Prod.fst) := by
  cases capacity with
  | none => rfl
  | some bound => exact List.map_take

/-! ## Histories -/

/-- Each key that was used has a last use. -/
theorem exists_last_use {history : List κ} {key : κ} (used : key ∈ history) :
    ∃ before since, history = before ++ key :: since ∧ key ∉ since := by
  obtain ⟨since, before, reversed, notSince⟩ :=
    List.eq_append_cons_of_mem (List.mem_reverse.mpr used)
  refine ⟨before.reverse, since.reverse, ?_, by simpa using notSince⟩
  rw [← List.reverse_reverse history, reversed]
  simp

variable [DecidableEq κ]

/-- A key was used, and since its last use fewer other keys than fit. -/
def IsRecent (capacity : Option Nat) (history : List κ) (key : κ) : Prop :=
  ∃ before since,
    history = before ++ key :: since ∧ key ∉ since ∧
      ∀ bound, capacity = some bound → since.toFinset.card < bound

/-- The keys of a history in the order of their last use, the latest first. -/
def recency (history : List κ) : List κ :=
  history.dedup.reverse

/-- Where nothing fits, no key is recent. -/
theorem not_isRecent_zero (history : List κ) (key : κ) : ¬ IsRecent (some 0) history key := by
  rintro ⟨before, since, -, -, fits⟩
  exact Nat.not_lt_zero _ (fits 0 rfl)

/-- Where everything fits, every key that was used is recent. -/
theorem isRecent_none_iff {history : List κ} {key : κ} :
    IsRecent none history key ↔ key ∈ history := by
  constructor
  · rintro ⟨before, since, rfl, -, -⟩
    simp
  · intro used
    obtain ⟨before, since, split, notSince⟩ := exists_last_use used
    exact ⟨before, since, split, notSince, nofun⟩

/-! ## The order of last use -/

/-- A key that is used again moves to the end. -/
theorem dedup_append_singleton (history : List κ) (key : κ) :
    (history ++ [key]).dedup = history.dedup.filter (· ≠ key) ++ [key] := by
  induction history with
  | nil => rfl
  | cons first rest inductionHypothesis =>
      rw [List.cons_append]
      by_cases later : first ∈ rest
      · rw [List.dedup_cons_of_mem (List.mem_append_left _ later), inductionHypothesis,
          List.dedup_cons_of_mem later]
      · rw [List.dedup_cons_of_notMem later]
        by_cases same : first = key
        · subst same
          rw [List.dedup_cons_of_mem (by simp), inductionHypothesis]
          simp
        · rw [List.dedup_cons_of_notMem (by simp [later, same]), inductionHypothesis]
          simp [same]

/-- A use puts a key in front of all others. -/
theorem recency_append (history : List κ) (key : κ) :
    recency (history ++ [key]) = key :: (recency history).filter (· ≠ key) := by
  rw [recency, dedup_append_singleton, List.reverse_append, recency, List.filter_reverse]
  rfl

theorem nodup_recency (history : List κ) : (recency history).Nodup :=
  List.nodup_reverse.mpr (List.nodup_dedup history)

theorem length_recency (history : List κ) : (recency history).length = history.toFinset.card := by
  rw [recency, List.length_reverse, List.card_toFinset]

/-- In front of a key stand those that were used since its last use. -/
theorem recency_split
    {since : List κ}
    {key : κ}
    (notSince : key ∉ since)
    (before : List κ) :
    ∃ older, recency (before ++ key :: since) = recency since ++ key :: older := by
  obtain ⟨older, split⟩ := List.suffix_union_right before (key :: since).dedup
  refine ⟨older.reverse, ?_⟩
  rw [recency, List.dedup_append, ← split, List.dedup_cons_of_notMem notSince, recency]
  simp

/-- The latest keys are the recent ones. -/
theorem mem_fitting_iff {capacity : Option Nat} {history : List κ} {key : κ} :
    key ∈ fitting capacity (recency history) ↔ IsRecent capacity history key := by
  cases capacity with
  | none =>
      rw [isRecent_none_iff, fitting, recency, List.mem_reverse, List.mem_dedup]
  | some bound =>
      rw [fitting]
      constructor
      · intro kept
        have used : key ∈ history := by
          have isMember := List.mem_of_mem_take kept
          rwa [recency, List.mem_reverse, List.mem_dedup] at isMember
        obtain ⟨before, since, rfl, notSince⟩ := exists_last_use used
        refine ⟨before, since, rfl, notSince, ?_⟩
        rintro _ ⟨⟩
        rw [← length_recency]
        by_contra beyond
        obtain ⟨older, split⟩ := recency_split notSince before
        rw [split, List.take_append_of_le_length (Nat.le_of_not_lt beyond)] at kept
        have isMember := List.mem_of_mem_take kept
        rw [recency, List.mem_reverse, List.mem_dedup] at isMember
        exact notSince isMember
      · rintro ⟨before, since, rfl, notSince, fits⟩
        have room := fits bound rfl
        rw [← length_recency] at room
        obtain ⟨older, split⟩ := recency_split notSince before
        rw [split, List.take_append, List.take_of_length_le (Nat.le_of_lt room),
          List.mem_append]
        right
        rw [← Nat.succ_pred_eq_of_pos (Nat.sub_pos_of_lt room), List.take_succ_cons]
        exact List.mem_cons_self

/-! ## A use -/

/-- A kept key comes to the front, and what is kept stays. -/
theorem filter_take_eq
    {keys : List κ}
    {key : κ}
    {bound : Nat}
    (distinct : keys.Nodup)
    (kept : key ∈ keys.take (bound + 1)) :
    (keys.take (bound + 1)).filter (· ≠ key) = (keys.filter (· ≠ key)).take bound := by
  induction keys generalizing bound with
  | nil => simp at kept
  | cons first rest inductionHypothesis =>
      obtain ⟨isNew, distinctRest⟩ := List.nodup_cons.mp distinct
      rw [List.take_succ_cons] at kept ⊢
      by_cases same : first = key
      · subst same
        have others : rest.filter (· ≠ first) = rest :=
          List.filter_eq_self.mpr fun other isMember => by
            rw [decide_eq_true_eq]
            rintro rfl
            exact isNew isMember
        rw [List.filter_cons_of_neg (by simp), List.filter_cons_of_neg (by simp), others]
        refine List.filter_eq_self.mpr fun other isMember => ?_
        rw [decide_eq_true_eq]
        rintro rfl
        exact isNew (List.mem_of_mem_take isMember)
      · have isLater : key ∈ rest.take bound :=
          (List.mem_cons.mp kept).resolve_left (Ne.symm same)
        rw [List.filter_cons_of_pos (by simpa using same),
          List.filter_cons_of_pos (by simpa using same)]
        cases bound with
        | zero => simp at isLater
        | succ bound => rw [List.take_succ_cons, inductionHypothesis distinctRest isLater]

/-- A key that is not among the first ones can be left out of the others. -/
theorem take_filter_eq
    {keys : List κ}
    {key : κ}
    {bound : Nat}
    (dropped : key ∉ keys.take bound) :
    (keys.filter (· ≠ key)).take bound = keys.take bound := by
  induction keys generalizing bound with
  | nil => rfl
  | cons first rest inductionHypothesis =>
      cases bound with
      | zero => simp
      | succ bound =>
          rw [List.take_succ_cons, List.mem_cons, not_or] at dropped
          rw [List.filter_cons_of_pos (by simpa using Ne.symm dropped.1), List.take_succ_cons,
            List.take_succ_cons, inductionHypothesis dropped.2]

/-- What fits after the use of a key that fits. -/
theorem fitting_hit
    {capacity : Option Nat}
    {history : List κ}
    {key : κ}
    (kept : key ∈ fitting capacity (recency history)) :
    fitting capacity (recency (history ++ [key])) =
      key :: (fitting capacity (recency history)).filter (· ≠ key) := by
  rw [recency_append]
  cases capacity with
  | none => rfl
  | some bound =>
      cases bound with
      | zero => simp [fitting] at kept
      | succ bound =>
          rw [fitting, fitting, List.take_succ_cons,
            filter_take_eq (nodup_recency history) kept]

/-- What fits after the use of a key that does not fit. -/
theorem fitting_miss
    {capacity : Option Nat}
    {history : List κ}
    {key : κ}
    (dropped : key ∉ fitting capacity (recency history)) :
    fitting capacity (recency (history ++ [key])) =
      fitting capacity (key :: fitting capacity (recency history)) := by
  rw [recency_append]
  cases capacity with
  | none =>
      rw [fitting, fitting, fitting, List.filter_eq_self.mpr]
      intro other isMember
      rw [decide_eq_true_eq]
      rintro rfl
      exact dropped isMember
  | some bound =>
      cases bound with
      | zero => rfl
      | succ bound =>
          have early : key ∉ (recency history).take bound := fun isMember =>
            dropped (List.take_subset_take_left _ (Nat.le_succ bound) isMember)
          rw [fitting, fitting, fitting, List.take_succ_cons, List.take_succ_cons,
            take_filter_eq early, List.take_take, Nat.min_eq_left (Nat.le_succ bound)]

/-! ## Caches -/

/-- A cache keeps the latest keys of a history, and has counted all of its uses. -/
structure Follows (history : List κ) (cache : RecentCache κ α) : Prop where
  keys_eq : cache.entries.map Prod.fst = fitting cache.capacity (recency history)
  counted : cache.hits + cache.misses = history.length

theorem follows_empty (capacity : Option Nat) :
    Follows [] (empty capacity : RecentCache κ α) := by
  refine ⟨?_, rfl⟩
  cases capacity with
  | none => rfl
  | some bound => exact List.take_nil.symm

theorem mem_keys_iff {cache : RecentCache κ α} {key : κ} :
    key ∈ cache.entries.map Prod.fst ↔ ∃ result, cache.get? key = some result := by
  simp only [get?, Option.map_eq_some_iff, List.mem_map]
  constructor
  · rintro ⟨entry, isEntry, rfl⟩
    have isKept : (cache.entries.find? fun other => other.1 == entry.1).isSome = true := by
      rw [List.find?_isSome]
      exact ⟨entry, isEntry, beq_self_eq_true entry.1⟩
    obtain ⟨found, isFound⟩ := Option.isSome_iff_exists.mp isKept
    exact ⟨found.2, found, isFound, rfl⟩
  · rintro ⟨result, entry, found, rfl⟩
    have isKey := List.find?_some found
    exact ⟨entry, List.mem_of_find?_eq_some found, eq_of_beq isKey⟩

namespace Follows

variable {history : List κ} {cache : RecentCache κ α} {key : κ} {result : α}

/-- A key is found exactly if it is recent. -/
theorem get?_eq_some_iff (follows : Follows history cache) :
    (∃ result, cache.get? key = some result) ↔ IsRecent cache.capacity history key := by
  rw [← mem_keys_iff, follows.keys_eq, mem_fitting_iff]

/-- A key that is found and used again is the latest one of the history. -/
theorem touch
    (follows : Follows history cache)
    (found : cache.get? key = some result)
    (again : α) :
    Follows (history ++ [key]) (cache.touch key again) := by
  have kept : key ∈ fitting cache.capacity (recency history) := by
    rw [← follows.keys_eq, mem_keys_iff]
    exact ⟨result, found⟩
  constructor
  · change key :: (cache.entries.filter fun entry => !(entry.1 == key)).map Prod.fst = _
    rw [show (cache.touch key again).capacity = cache.capacity from rfl, fitting_hit kept,
      ← follows.keys_eq, List.filter_map]
    congr 3
    funext entry
    rw [Bool.eq_iff_iff]
    simp
  · have counted := follows.counted
    rw [List.length_append, List.length_singleton]
    change cache.hits + 1 + cache.misses = _
    omega

/-- A key that is not found is put in front, and the one that was used longest ago may go. -/
theorem store
    (follows : Follows history cache)
    (notFound : cache.get? key = none)
    (result : α) :
    Follows (history ++ [key]) (cache.store key result) := by
  have dropped : key ∉ fitting cache.capacity (recency history) := by
    rw [← follows.keys_eq, mem_keys_iff, notFound]
    rintro ⟨_, ⟨⟩⟩
  constructor
  · change (restrict cache.capacity ((key, result) :: cache.entries)).map Prod.fst =
      fitting cache.capacity _
    rw [fitting_miss dropped, ← follows.keys_eq, map_fst_restrict, List.map_cons]
  · have counted := follows.counted
    rw [List.length_append, List.length_singleton]
    change cache.hits + (cache.misses + 1) = _
    omega

/-- There are as many results as keys were used, as many as fit. -/
theorem size_eq (follows : Follows history cache) :
    cache.size = capped cache.capacity history.toFinset.card := by
  have size : cache.size = (cache.entries.map Prod.fst).length := by
    rw [RecentCache.size, List.length_map]
  rw [size, follows.keys_eq, ← length_recency]
  cases cache.capacity with
  | none => rfl
  | some bound => rw [fitting, capped, List.length_take]

end Follows

end RecentCache
end ComponentOutline
