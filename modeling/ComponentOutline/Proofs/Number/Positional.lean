import ComponentOutline.Proofs.Number.Numeral
import Mathlib.Data.Nat.Digits.Defs

/-!
# The value of a numeral

A digit is worth its place in the row of the digits, whatever its case, and a numeral is
worth the sum of its digits, each times the power of the base for its place.  The readers of
numerals give this value.
-/

namespace ComponentOutline
namespace Numeral

/-- The digits of all bases, by their worth. -/
def digitRow : List Char :=
  ['0', '1', '2', '3', '4', '5', '6', '7', '8', '9', 'a', 'b', 'c', 'd', 'e', 'f']

/-- What a digit is worth, large or small; what is no digit is worth more than any. -/
def worth (character : Char) : Nat :=
  digitRow.idxOf character.toLower

/-- Digits of a base, at least one. -/
structure IsNumeral (base : Nat) (digits : List Char) : Prop where
  worth_lt : ∀ digit ∈ digits, worth digit < base
  nonempty : digits ≠ []

instance (base : Nat) (digits : List Char) : Decidable (IsNumeral base digits) :=
  decidable_of_iff (digits.all (worth · < base) = true ∧ digits ≠ []) <| by
    simp only [List.all_eq_true, decide_eq_true_eq]
    exact ⟨fun ⟨small, nonempty⟩ => ⟨small, nonempty⟩,
      fun numeral => ⟨numeral.worth_lt, numeral.nonempty⟩⟩

/-- What digits are worth in a base, the last one being that of the units. -/
def valueOf (base : Nat) (digits : List Char) : Nat :=
  Nat.ofDigits base (digits.reverse.map worth)

/-- A character whose small form is in ASCII is in ASCII. -/
theorem ascii_of_toLower
    {character : Char}
    (ascii : character.toLower.toNat < 128) :
    character.toNat < 128 := by
  unfold Char.toLower at ascii
  split at ascii
  · next isUpper =>
      have bound := isUpper.2
      rw [UInt32.le_iff_toNat_le] at bound
      change character.toNat ≤ 90 at bound
      omega
  · exact ascii

theorem ascii_of_worth {character : Char} (digit : worth character < 16) :
    character.toNat < 128 := by
  have isMember : character.toLower ∈ digitRow := List.idxOf_lt_length_iff.mp digit
  have row : digitRow.all (·.toNat < 128) = true := by decide
  exact ascii_of_toLower (of_decide_eq_true (List.all_eq_true.mp row _ isMember))

/-- A digit is read as what it is worth. -/
theorem digitOf?_eq
    {base : Nat}
    {character : Char}
    (digit : worth character < base)
    (known : base ≤ 16) :
    digitOf? base character = some (worth character) := by
  have small : worth character < 16 := Nat.lt_of_lt_of_le digit known
  have ascii := ascii_of_worth small
  have read : digitValue character = some (worth character) := by
    revert small
    exact of_ascii
      (fun character => worth character < 16 → digitValue character = some (worth character))
      (by decide +kernel) ascii
  rw [digitOf?, read, Option.filter_some_pos]
  simpa using digit

/-- A numeral is made of plain digits of its base. -/
theorem IsNumeral.isPlain
    {base : Nat}
    {digits : List Char}
    (numeral : IsNumeral base digits)
    (known : base ≤ 16) :
    IsPlain base digits := by
  refine ⟨?_, numeral.nonempty⟩
  intro character isMember
  rw [isDigitOf, digitOf?_eq (numeral.worth_lt character isMember) known]
  rfl

theorem IsNumeral.mono
    {base larger : Nat}
    {digits : List Char}
    (numeral : IsNumeral base digits)
    (larger_le : base ≤ larger) :
    IsNumeral larger digits :=
  ⟨fun digit isMember => Nat.lt_of_lt_of_le (numeral.worth_lt digit isMember) larger_le,
    numeral.nonempty⟩

theorem IsNumeral.zero_cons
    {base : Nat}
    {digits : List Char}
    (numeral : IsNumeral base digits)
    (positive : 0 < base) :
    IsNumeral base ('0' :: digits) :=
  ⟨List.forall_mem_cons.mpr ⟨positive, numeral.worth_lt⟩, List.cons_ne_nil _ _⟩

/-- Digits are read in order. -/
theorem digitsOf_eq
    {base : Nat}
    {digits : List Char}
    (small : ∀ digit ∈ digits, worth digit < base)
    (known : base ≤ 16) :
    digitsOf base digits = digits.map worth := by
  induction digits with
  | nil => rfl
  | cons digit rest inductionHypothesis =>
      obtain ⟨here, others⟩ := List.forall_mem_cons.mp small
      rw [digitsOf, List.filterMap_cons_some (digitOf?_eq here known), List.map_cons]
      exact congrArg _ (inductionHypothesis others)

/-- Reading digits from the left adds up their places. -/
theorem positional_eq_ofDigits (base : Nat) (digits : List Nat) :
    positional base digits = Nat.ofDigits base digits.reverse := by
  induction digits using List.reverseRecOn with
  | nil => rfl
  | append_singleton front last inductionHypothesis =>
      rw [List.reverse_append, List.reverse_singleton, List.singleton_append,
        Nat.ofDigits_cons, ← inductionHypothesis, positional, List.foldl_append]
      change positional base front * base + last = _
      rw [Nat.mul_comm, Nat.add_comm]

/-- The positional value that is computed is the one of the numeral. -/
theorem IsNumeral.positional_eq
    {base : Nat}
    {digits : List Char}
    (numeral : IsNumeral base digits)
    (known : base ≤ 16) :
    positional base (digitsOf base digits) = valueOf base digits := by
  rw [digitsOf_eq numeral.worth_lt known, positional_eq_ofDigits, valueOf, List.map_reverse]

end Numeral
end ComponentOutline
