import ComponentOutline.Number.Binary64

/-!
# The fewest digits that read back

A floating-point number is written with the fewest decimal digits that round to
it, and of several such decimals with the nearest.  For one, two, up to seventeen
digits the two neighbours of the value on that decimal grid are tried; everything
is exact arithmetic on whole numbers.
-/

namespace ComponentOutline

/-- A decimal `digits * 10 ^ power`. -/
structure Decimal where
  digits : Nat
  power : Int
  deriving DecidableEq

namespace Shortest

/-- The reals that round to a significand, in quarters of its unit: the value and
both ends. -/
structure Interval where
  low : Nat
  value : Nat
  high : Nat
  /-- Whether the ends themselves round to the significand. -/
  closed : Bool

/-- The interval of a significand.  Below a power of two the numbers lie twice as
close. -/
def interval (significand : Nat) (exponent : Int) : Interval :=
  let closer :=
    significand = powerOfTwo (Binary64.precision - 1) && Binary64.minExponent < exponent
  { low := 4 * significand - (if closer then 1 else 2)
    value := 4 * significand
    high := 4 * significand + 2
    closed := significand % 2 = 0 }

/-- The number of decimal digits of a whole number. -/
def digitCount (number : Nat) : Nat :=
  (Nat.toDigits 10 number).length

/-- Numerator and denominator of a whole number times a power of two, divided by a
power of ten. -/
def onGrid (number : Nat) (binary decimal : Int) : Nat × Nat :=
  (number * powerOfTwo binary.toNat * powerOfTen (-decimal).toNat,
    powerOfTwo (-binary).toNat * powerOfTen decimal.toNat)

/-- The exponent of the leading decimal digit of a positive number. -/
def leadingExponent (number : Nat) (binary : Int) : Int :=
  let (numerator, denominator) := onGrid number binary 0
  let guess : Int := (digitCount numerator : Int) - digitCount denominator
  let (numerator, denominator) := onGrid number binary guess
  if denominator ≤ numerator then guess else guess - 1

/-- Whether a decimal lies in the interval. -/
def inside (interval : Interval) (binary decimal : Int) (digits : Nat) : Bool :=
  let (low, unit) := onGrid interval.low binary decimal
  let (high, _) := onGrid interval.high binary decimal
  if interval.closed then low ≤ digits * unit && digits * unit ≤ high
  else low < digits * unit && digits * unit < high

/-- The decimal of a given grid that reads back, if one does: the nearer of the two
neighbours, and the even one of two that are equally near. -/
def onPower? (interval : Interval) (binary decimal : Int) : Option Decimal :=
  let (value, unit) := onGrid interval.value binary decimal
  let below := value / unit
  let rest := value % unit
  let lowFits := inside interval binary decimal below
  let highFits := inside interval binary decimal (below + 1)
  let preferLow := 2 * rest < unit || (2 * rest = unit && below % 2 = 0)
  if lowFits && (preferLow || !highFits) then some ⟨below, decimal⟩
  else if highFits then some ⟨below + 1, decimal⟩
  else none

/-- Tries grids from the coarsest on. -/
def search (interval : Interval) (binary leading : Int) : Nat → Nat → Option Decimal
  | _, 0 => none
  | count, tries + 1 =>
      match onPower? interval binary (leading + 1 - count) with
      | some decimal => some decimal
      | none => search interval binary leading (count + 1) tries

end Shortest

namespace Decimal

/-- Drops zeros at the end of the digits. -/
def trim (decimal : Decimal) : Nat → Decimal
  | 0 => decimal
  | fuel + 1 =>
      if decimal.digits ≠ 0 ∧ decimal.digits % 10 = 0 then
        trim ⟨decimal.digits / 10, decimal.power + 1⟩ fuel
      else decimal

end Decimal

/-- The shortest decimal of a positive significand and its exponent.  Seventeen
digits always suffice. -/
def shortestDecimal (significand : Nat) (exponent : Int) : Decimal :=
  let interval := Shortest.interval significand exponent
  let binary := exponent - 2
  let leading := Shortest.leadingExponent interval.value binary
  match Shortest.search interval binary leading 1 17 with
  | some decimal => decimal.trim 17
  | none => ⟨significand, 0⟩

end ComponentOutline
