/-!
# A cache of recent results

A cache keeps the results that were used last, up to its capacity.  Asking for a key
that is kept is a hit and makes it the most recent one; any other key is a miss, and
its result takes the place of the one that was not used for the longest time.
-/

namespace ComponentOutline

/-- Results by key, the most recently used first. -/
structure RecentCache (κ α : Type) where
  /-- The most results that are kept; `none` for any number. -/
  capacity : Option Nat
  entries : List (κ × α)
  hits : Nat
  misses : Nat

namespace RecentCache

variable {κ α : Type} [BEq κ]

/-- The cache that nothing was asked of. -/
def empty (capacity : Option Nat) : RecentCache κ α :=
  ⟨capacity, [], 0, 0⟩

/-- The result that is kept for a key. -/
def get? (key : κ) (cache : RecentCache κ α) : Option α :=
  (cache.entries.find? fun entry => entry.1 == key).map (·.2)

/-- Drops what does not fit. -/
def restrict (capacity : Option Nat) (entries : List (κ × α)) : List (κ × α) :=
  match capacity with
  | some bound => entries.take bound
  | none => entries

/-- The cache after a hit. -/
def touch (key : κ) (result : α) (cache : RecentCache κ α) : RecentCache κ α :=
  { cache with
    entries := (key, result) :: cache.entries.filter fun entry => !(entry.1 == key)
    hits := cache.hits + 1 }

/-- The cache after a miss. -/
def store (key : κ) (result : α) (cache : RecentCache κ α) : RecentCache κ α :=
  { cache with
    entries := restrict cache.capacity ((key, result) :: cache.entries)
    misses := cache.misses + 1 }

/-- The number of results that are kept. -/
def size (cache : RecentCache κ α) : Nat :=
  cache.entries.length

end RecentCache
end ComponentOutline
