/-!
# Binary floating point

A double-precision number is a datum: not a number, an infinity, or a sign with a
significand and a binary exponent.  `Binary64.ofRatio` rounds an exact quotient to
the nearest such number, a tie going to the even significand, and
`Binary64.ofDecimal` reads a decimal through it.
-/

namespace ComponentOutline

/-- The power of two with an exponent. -/
def powerOfTwo (exponent : Nat) : Nat :=
  Nat.pow 2 exponent

/-- The power of ten with an exponent. -/
def powerOfTen (exponent : Nat) : Nat :=
  Nat.pow 10 exponent

/-- A double-precision floating-point number.  The value of `finite` is
`significand * 2 ^ exponent` with its sign. -/
inductive Binary64 where
  | nan
  | infinite (negative : Bool)
  | finite (negative : Bool) (significand : Nat) (exponent : Int)
  deriving DecidableEq

namespace Binary64

/-- The bits of a significand. -/
def precision : Nat := 53

/-- The exponent of the least positive number. -/
def minExponent : Int := -1074

/-- The greatest exponent of a finite number. -/
def maxExponent : Int := 971

/-- Zero with a sign. -/
def zero (negative : Bool) : Binary64 :=
  .finite negative 0 minExponent

/-- The opposite number; that of no number is itself. -/
def negate : Binary64 → Binary64
  | .nan => .nan
  | .infinite negative => .infinite (!negative)
  | .finite negative significand exponent => .finite (!negative) significand exponent

/-- Whether a number is neither infinite nor no number at all. -/
def isFinite : Binary64 → Bool
  | .finite .. => true
  | _ => false

/-- Numerator and denominator of a quotient divided by a power of two. -/
def scaleDown (numerator denominator : Nat) (exponent : Int) : Nat × Nat :=
  if 0 ≤ exponent then
    (numerator, denominator * powerOfTwo exponent.toNat)
  else
    (numerator * powerOfTwo (-exponent).toNat, denominator)

/-- The whole number nearest to a quotient, a tie going to the even one. -/
def roundDiv (numerator denominator : Nat) : Nat :=
  let quotient := numerator / denominator
  let doubled := 2 * (numerator % denominator)
  if doubled < denominator then quotient
  else if denominator < doubled then quotient + 1
  else if quotient % 2 = 0 then quotient
  else quotient + 1

/-- The least exponent at which the quotient has at most `precision` bits before
rounding. -/
def exponentFor (numerator denominator : Nat) : Int :=
  let guess : Int := (Nat.log2 numerator : Int) - Nat.log2 denominator - (precision : Int) + 1
  let scaled := scaleDown numerator denominator guess
  let exponent := if scaled.1 / scaled.2 < powerOfTwo (precision - 1) then guess - 1 else guess
  max exponent minExponent

/-- The number nearest to a quotient. -/
def ofRatio (negative : Bool) (numerator denominator : Nat) : Binary64 :=
  if numerator = 0 then zero negative
  else
    let exponent := exponentFor numerator denominator
    let scaled := scaleDown numerator denominator exponent
    let significand := roundDiv scaled.1 scaled.2
    let (significand, exponent) :=
      if significand = powerOfTwo precision then (powerOfTwo (precision - 1), exponent + 1)
      else (significand, exponent)
    if maxExponent < exponent then .infinite negative
    else .finite negative significand exponent

/-- The number nearest to `digits * 10 ^ power`.  Far outside of the range the
answer is known without forming the power of ten. -/
def ofDecimal (negative : Bool) (digits : Nat) (power : Int) : Binary64 :=
  let magnitude : Int := (Nat.toDigits 10 digits).length + power
  if digits = 0 then zero negative
  else if 400 < magnitude then .infinite negative
  else if magnitude < -400 then zero negative
  else if 0 ≤ power then ofRatio negative (digits * powerOfTen power.toNat) 1
  else ofRatio negative digits (powerOfTen (-power).toNat)

/-- The whole number that a floating-point number is equal to. -/
def toInt? : Binary64 → Option Int
  | .finite negative significand exponent =>
      let magnitude? : Option Nat :=
        if 0 ≤ exponent then some (significand * powerOfTwo exponent.toNat)
        else if significand % powerOfTwo (-exponent).toNat = 0 then
          some (significand / powerOfTwo (-exponent).toNat)
        else none
      magnitude?.map fun (magnitude : Nat) =>
        if negative then -(magnitude : Int) else (magnitude : Int)
  | _ => none

end Binary64
end ComponentOutline
