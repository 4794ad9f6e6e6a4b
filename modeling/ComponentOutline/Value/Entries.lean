/-!
# Ordered entries

A map that remembers the order in which its keys came is a list of entries.
Writing a key that is present changes its value and keeps its place.
-/

namespace ComponentOutline

/-- Keys with their values, in the order in which the keys were first written. -/
abbrev Entries (κ : Type u) (α : Type v) := List (κ × α)

namespace Entries

variable {κ : Type u} {α : Type v} [BEq κ]

/-- Writes a value under a key. -/
def insert (key : κ) (value : α) : Entries κ α → Entries κ α
  | [] => [(key, value)]
  | entry :: rest =>
      if entry.1 == key then (entry.1, value) :: rest
      else entry :: insert key value rest

/-- Writes many entries, one after the other. -/
def insertAll (added : List (κ × α)) (entries : Entries κ α) : Entries κ α :=
  added.foldl (fun entries entry => insert entry.1 entry.2 entries) entries

/-- The value under a key. -/
def get? (key : κ) (entries : Entries κ α) : Option α :=
  (entries.find? fun entry => entry.1 == key).map (·.2)

theorem get?_cons (key : κ) (entry : κ × α) (rest : Entries κ α) :
    get? key (entry :: rest) = if entry.1 == key then some entry.2 else get? key rest := by
  rw [get?, List.find?_cons]
  cases entry.1 == key with
  | true => rfl
  | false => rfl

section

variable [LawfulBEq κ]

@[simp] theorem get?_insert_self (key : κ) (value : α) (entries : Entries κ α) :
    (insert key value entries).get? key = some value := by
  induction entries with
  | nil => rw [insert, get?_cons, if_pos BEq.rfl]
  | cons entry rest inductionHypothesis =>
      rw [insert]
      split
      · next same => rw [get?_cons, if_pos same]
      · next other => rw [get?_cons, if_neg other, inductionHypothesis]

theorem get?_insert_of_ne
    {key other : κ}
    (differs : key ≠ other)
    (value : α)
    (entries : Entries κ α) :
    (insert other value entries).get? key = entries.get? key := by
  induction entries with
  | nil =>
      have passed : ¬(other == key) = true := by
        simpa using differs.symm
      rw [insert, get?_cons, if_neg passed]
  | cons entry rest inductionHypothesis =>
      rw [insert]
      split
      · next same =>
          have passed : ¬(entry.1 == key) = true := by
            rw [eq_of_beq same]
            simpa using differs.symm
          rw [get?_cons, get?_cons, if_neg passed, if_neg passed]
      · rw [get?_cons, get?_cons, inductionHypothesis]

end

end Entries
end ComponentOutline
