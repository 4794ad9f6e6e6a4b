import ComponentOutline.Number.Numeral
import Mathlib.Data.Nat.Digits.Defs

/-!
# Numerals that are written

An integer has a numeral unless it has more decimal digits than are written at once.  The
whole numbers among the floating-point numbers are far below that limit.
-/

namespace ComponentOutline

/-- An integer is written exactly if it is below the power of ten with the most digits. -/
theorem writeInteger_ok_iff (value : Int) :
    (∃ numeral, writeInteger value = .ok numeral) ↔ value.natAbs < 10 ^ digitLimit := by
  have bounded : ¬ digitLimit < (toString value.natAbs).length ↔
      value.natAbs < 10 ^ digitLimit := by
    rw [← Nat.length_toDigits_le_iff (by decide) (by decide), Nat.not_lt]
    change (String.ofList (Nat.toDigits 10 value.natAbs)).length ≤ _ ↔ _
    rw [String.length_ofList]
  rw [← bounded]
  unfold writeInteger
  constructor
  · rintro ⟨numeral, written⟩ long
    simp only [if_pos long] at written
    cases written
  · intro short
    simp only [if_neg short]
    exact ⟨_, rfl⟩

namespace Binary64

theorem powerOfTwo_eq (exponent : Nat) : powerOfTwo exponent = 2 ^ exponent := rfl

theorem powerOfTen_eq (exponent : Nat) : powerOfTen exponent = 10 ^ exponent := rfl

/-- Rounding adds one at most. -/
theorem roundDiv_le (numerator denominator : Nat) :
    roundDiv numerator denominator ≤ numerator / denominator + 1 := by
  unfold roundDiv
  simp only
  split
  · omega
  · split
    · omega
    · split
      · omega
      · omega

/-- The size of a whole number by its significand and its exponent. -/
theorem natAbs_of_toInt?
    {negative : Bool}
    {significand : Nat}
    {exponent value : Int}
    (whole : (finite negative significand exponent).toInt? = some value) :
    value.natAbs = significand * 2 ^ exponent.toNat / 2 ^ (-exponent).toNat := by
  unfold toInt? at whole
  simp only [Option.map_eq_some_iff] at whole
  obtain ⟨magnitude, found, rfl⟩ := whole
  have size : (if negative = true then -(magnitude : Int) else (magnitude : Int)).natAbs =
      magnitude := by
    split
    · omega
    · omega
  rw [size]
  split at found
  · next nonnegative =>
      have noFraction : (-exponent).toNat = 0 := by omega
      obtain rfl := Option.some.inj found
      rw [noFraction, Nat.pow_zero, Nat.div_one, powerOfTwo_eq]
  · next isNegative =>
      have noPower : exponent.toNat = 0 := by omega
      split at found
      · obtain rfl := Option.some.inj found
        rw [noPower, Nat.pow_zero, Nat.mul_one, powerOfTwo_eq]
      · cases found

/-- Rounding at an exponent adds at most one unit of it. -/
theorem roundDiv_scaleDown_le
    (numerator denominator : Nat)
    (exponent : Int) :
    roundDiv (scaleDown numerator denominator exponent).1
        (scaleDown numerator denominator exponent).2 * 2 ^ exponent.toNat /
      2 ^ (-exponent).toNat ≤ numerator / denominator + 2 ^ exponent.toNat := by
  have rounded := roundDiv_le (scaleDown numerator denominator exponent).1
    (scaleDown numerator denominator exponent).2
  unfold scaleDown at rounded ⊢
  split
  · next nonnegative =>
      have noFraction : (-exponent).toNat = 0 := by omega
      rw [if_pos nonnegative, powerOfTwo_eq, ← Nat.div_div_eq_div_mul] at rounded
      rw [noFraction, Nat.pow_zero, Nat.div_one, powerOfTwo_eq]
      calc
        _ ≤ (numerator / denominator / 2 ^ exponent.toNat + 1) * 2 ^ exponent.toNat :=
          Nat.mul_le_mul_right _ rounded
        _ = numerator / denominator / 2 ^ exponent.toNat * 2 ^ exponent.toNat +
            2 ^ exponent.toNat := by rw [Nat.add_mul, Nat.one_mul]
        _ ≤ numerator / denominator + 2 ^ exponent.toNat :=
          Nat.add_le_add_right (Nat.div_mul_le_self _ _) _
  · next isNegative =>
      have noPower : exponent.toNat = 0 := by omega
      rw [if_neg isNegative, powerOfTwo_eq] at rounded
      rw [noPower, Nat.pow_zero, Nat.mul_one, powerOfTwo_eq]
      have positive : 0 < 2 ^ (-exponent).toNat := Nat.two_pow_pos _
      calc
        _ ≤ (numerator * 2 ^ (-exponent).toNat / denominator + 1) / 2 ^ (-exponent).toNat :=
          Nat.div_le_div_right rounded
        _ ≤ (numerator * 2 ^ (-exponent).toNat / denominator + 2 ^ (-exponent).toNat) /
            2 ^ (-exponent).toNat :=
          Nat.div_le_div_right (Nat.add_le_add_left positive _)
        _ = numerator * 2 ^ (-exponent).toNat / denominator / 2 ^ (-exponent).toNat + 1 :=
          Nat.add_div_right _ positive
        _ = numerator / denominator + 1 := by
          rw [Nat.div_div_eq_div_mul, Nat.mul_div_mul_right _ _ positive]

/-- The exponent of a power of two above all finite numbers. -/
def ceilingExponent : Nat := precision + maxExponent.toNat

/-- A whole number that a quotient is rounded to is not much larger than the quotient. -/
theorem natAbs_of_ofRatio
    {negative : Bool}
    {numerator denominator : Nat}
    {value : Int}
    (whole : (ofRatio negative numerator denominator).toInt? = some value) :
    value.natAbs ≤ numerator / denominator + 2 ^ ceilingExponent := by
  unfold ofRatio at whole
  simp only at whole
  split at whole
  · rw [natAbs_of_toInt? whole, Nat.zero_mul, Nat.zero_div]
    exact Nat.zero_le _
  · split at whole
    · -- the significand has overflown to a power of two
      simp only at whole
      split at whole
      · cases whole
      · next inRange =>
          have limited : precision - 1 + (exponentFor numerator denominator + 1).toNat ≤
              ceilingExponent := by
            unfold ceilingExponent
            omega
          rw [natAbs_of_toInt? whole, powerOfTwo_eq]
          calc
            _ ≤ 2 ^ (precision - 1) * 2 ^ (exponentFor numerator denominator + 1).toNat :=
              Nat.div_le_self _ _
            _ = 2 ^ (precision - 1 + (exponentFor numerator denominator + 1).toNat) :=
              (Nat.pow_add _ _ _).symm
            _ ≤ 2 ^ ceilingExponent := Nat.pow_le_pow_right (by decide) limited
            _ ≤ numerator / denominator + 2 ^ ceilingExponent := Nat.le_add_left _ _
    · simp only at whole
      split at whole
      · cases whole
      · next inRange =>
          have limited : (exponentFor numerator denominator).toNat ≤ ceilingExponent := by
            unfold ceilingExponent
            omega
          rw [natAbs_of_toInt? whole]
          calc
            _ ≤ numerator / denominator + 2 ^ (exponentFor numerator denominator).toNat :=
              roundDiv_scaleDown_le numerator denominator _
            _ ≤ numerator / denominator + 2 ^ ceilingExponent :=
              Nat.add_le_add_left (Nat.pow_le_pow_right (by decide) limited) _

/-- Below the limit of the digits there is room for any rounding. -/
theorem add_lt_digitLimit
    {quotient : Nat}
    (small : quotient < 10 ^ ceilingExponent) :
    quotient + 2 ^ ceilingExponent < 10 ^ digitLimit := by
  have power : 2 ^ ceilingExponent ≤ 10 ^ ceilingExponent := Nat.pow_le_pow_left (by decide) _
  have below : ceilingExponent < digitLimit := by decide
  generalize ceilingExponent = exponent at small power below ⊢
  calc
    quotient + 2 ^ exponent < 10 ^ exponent * 10 := by omega
    _ = 10 ^ (exponent + 1) := (Nat.pow_succ _ _).symm
    _ ≤ 10 ^ digitLimit := Nat.pow_le_pow_right (by decide) below

/-- The whole numbers that decimals are rounded to can be written. -/
theorem natAbs_of_ofDecimal
    {negative : Bool}
    {digits : Nat}
    {power value : Int}
    (whole : (ofDecimal negative digits power).toInt? = some value) :
    value.natAbs < 10 ^ digitLimit := by
  have counted : digits < 10 ^ (Nat.toDigits 10 digits).length :=
    (Nat.length_toDigits_le_iff (by decide) Nat.length_toDigits_pos).mp (Nat.le_refl _)
  have room : 400 ≤ ceilingExponent := by decide
  have ofZero : (zero negative).toInt? = some value → value.natAbs < 10 ^ digitLimit := by
    intro isZero
    rw [natAbs_of_toInt? isZero, Nat.zero_mul, Nat.zero_div]
    exact Nat.pow_pos (by decide)
  unfold ofDecimal at whole
  simp only at whole
  split at whole
  · exact ofZero whole
  · split at whole
    · cases whole
    · next inRange =>
        split at whole
        · exact ofZero whole
        · split at whole
          · next nonnegative =>
              apply Nat.lt_of_le_of_lt (natAbs_of_ofRatio whole)
              apply add_lt_digitLimit
              rw [Nat.div_one, powerOfTen_eq]
              calc
                _ < 10 ^ (Nat.toDigits 10 digits).length * 10 ^ power.toNat :=
                  Nat.mul_lt_mul_of_pos_right counted (Nat.pow_pos (by decide))
                _ = 10 ^ ((Nat.toDigits 10 digits).length + power.toNat) :=
                  (Nat.pow_add _ _ _).symm
                _ ≤ 10 ^ ceilingExponent := Nat.pow_le_pow_right (by decide) (by omega)
          · next isNegative =>
              apply Nat.lt_of_le_of_lt (natAbs_of_ofRatio whole)
              apply add_lt_digitLimit
              rw [powerOfTen_eq, Nat.div_lt_iff_lt_mul (Nat.pow_pos (by decide)),
                ← Nat.pow_add]
              exact Nat.lt_of_lt_of_le counted (Nat.pow_le_pow_right (by decide) (by omega))

end Binary64
end ComponentOutline
