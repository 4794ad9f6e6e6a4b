import ComponentOutline.Value.Entries
import Mathlib.Data.List.Induction

/-!
# Entries written one after the other

Writing a list of pairs from nothing gives a map: each key stands once, at the place of its
first pair, with the value of its last one.  Writing the entries of a map once more gives
the same entries.
-/

namespace ComponentOutline
namespace Entries

variable {κ : Type u} {α : Type v} [BEq κ]

theorem insertAll_concat (added : List (κ × α)) (entry : κ × α) (entries : Entries κ α) :
    insertAll (added ++ [entry]) entries = insert entry.1 entry.2 (insertAll added entries) := by
  rw [insertAll, List.foldl_append]
  rfl

variable [LawfulBEq κ]

/-- A new key is written behind those that are there. -/
theorem insert_of_notMem
    {key : κ}
    {entries : Entries κ α}
    (absent : key ∉ entries.map Prod.fst)
    (value : α) :
    insert key value entries = entries ++ [(key, value)] := by
  induction entries with
  | nil => rfl
  | cons entry rest inductionHypothesis =>
      rw [List.map_cons, List.mem_cons, not_or] at absent
      have passed : ¬ (entry.1 == key) = true := by
        simpa using Ne.symm absent.1
      rw [insert, if_neg passed, inductionHypothesis absent.2]
      rfl

/-- A known key keeps its place. -/
theorem map_fst_insert_of_mem
    {key : κ}
    {entries : Entries κ α}
    (present : key ∈ entries.map Prod.fst)
    (value : α) :
    (insert key value entries).map Prod.fst = entries.map Prod.fst := by
  induction entries with
  | nil => cases present
  | cons entry rest inductionHypothesis =>
      rw [insert]
      split
      · rfl
      · next passed =>
          have further : key ∈ rest.map Prod.fst := by
            rw [List.map_cons, List.mem_cons] at present
            exact present.resolve_left fun same => passed (by simp [same])
          rw [List.map_cons, List.map_cons, inductionHypothesis further]

theorem nodup_insert
    {entries : Entries κ α}
    (distinct : (entries.map Prod.fst).Nodup)
    (key : κ)
    (value : α) :
    ((insert key value entries).map Prod.fst).Nodup := by
  by_cases present : key ∈ entries.map Prod.fst
  · rwa [map_fst_insert_of_mem present]
  · rw [insert_of_notMem present, List.map_append, List.nodup_append]
    refine ⟨distinct, by simp, ?_⟩
    rintro known isKnown _ (_ | ⟨_, ⟨⟩⟩) rfl
    exact present isKnown

/-- All keys that are inserted one after the other are distinct. -/
theorem nodup_insertAll (added : List (κ × α)) :
    ((insertAll added []).map Prod.fst).Nodup := by
  induction added using List.reverseRecOn with
  | nil => exact List.nodup_nil
  | append_singleton front entry inductionHypothesis =>
      rw [insertAll_concat]
      exact nodup_insert inductionHypothesis entry.1 entry.2

/-- The keys are in the order of their first pairs. -/
theorem map_fst_insertAll (added : List (κ × α)) :
    (insertAll added []).map Prod.fst = (added.map Prod.fst).eraseDups := by
  induction added using List.reverseRecOn with
  | nil => rfl
  | append_singleton front entry inductionHypothesis =>
      have known : entry.1 ∈ (insertAll front []).map Prod.fst ↔
          entry.1 ∈ front.map Prod.fst := by
        rw [inductionHypothesis, List.mem_eraseDups]
      rw [insertAll_concat, List.map_append, List.map_singleton, List.eraseDups_append,
        ← inductionHypothesis]
      by_cases present : entry.1 ∈ (insertAll front []).map Prod.fst
      · have nothing : [entry.1].removeAll (front.map Prod.fst) = [] := by
          simpa [List.removeAll] using known.mp present
        rw [map_fst_insert_of_mem present, nothing]
        simp
      · have itself : [entry.1].removeAll (front.map Prod.fst) = [entry.1] := by
          simpa [List.removeAll] using mt known.mpr present
        rw [insert_of_notMem present, itself, List.map_append]
        rfl

/-- The value of a key is that of its last pair. -/
theorem get?_insertAll (added : List (κ × α)) (key : κ) :
    (insertAll added []).get? key =
      (added.filter fun pair => pair.1 == key).getLast?.map Prod.snd := by
  induction added using List.reverseRecOn with
  | nil => rfl
  | append_singleton front entry inductionHypothesis =>
      rw [insertAll_concat, List.filter_append, List.getLast?_append]
      by_cases same : entry.1 = key
      · rw [← same, get?_insert_self]
        simp
      · rw [get?_insert_of_ne (Ne.symm same), inductionHypothesis]
        simp [same]

/-- With distinct keys, each entry is found by its key. -/
theorem get?_of_mem
    {entries : Entries κ α}
    {entry : κ × α}
    (distinct : (entries.map Prod.fst).Nodup)
    (isEntry : entry ∈ entries) :
    entries.get? entry.1 = some entry.2 := by
  induction entries with
  | nil => cases isEntry
  | cons first rest inductionHypothesis =>
      rw [List.map_cons, List.nodup_cons] at distinct
      rw [get?_cons]
      obtain rfl | further := List.mem_cons.mp isEntry
      · rw [if_pos BEq.rfl]
      · have passed : ¬ (first.1 == entry.1) = true := by
          intro same
          rw [eq_of_beq same] at distinct
          exact distinct.1 (List.mem_map_of_mem further)
        rw [if_neg passed, inductionHypothesis distinct.2 further]

/-- Writing a map once more gives the same map. -/
theorem insertAll_of_nodup
    {entries : Entries κ α}
    (distinct : (entries.map Prod.fst).Nodup) :
    insertAll entries [] = entries := by
  induction entries using List.reverseRecOn with
  | nil => rfl
  | append_singleton front entry inductionHypothesis =>
      rw [List.map_append, List.nodup_append] at distinct
      obtain ⟨frontDistinct, -, apart⟩ := distinct
      have absent : entry.1 ∉ front.map Prod.fst :=
        fun present => apart entry.1 present entry.1 List.mem_cons_self rfl
      rw [insertAll_concat, inductionHypothesis frontDistinct, insert_of_notMem absent]

end Entries
end ComponentOutline
