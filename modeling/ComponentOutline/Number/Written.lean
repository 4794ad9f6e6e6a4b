import ComponentOutline.Number.Shortest

/-!
# Floating-point numbers as text

A number is written positionally while its leading digit stands between the
fourth place after the point and the sixteenth before it, and with an exponent of
at least two digits otherwise.  A positional number always shows a point.
-/

namespace ComponentOutline

/-- The choices in writing a floating-point number. -/
structure FloatFormat where
  /-- The least leading exponent that is written positionally. -/
  positionalFrom : Int
  /-- The least greater exponent that is not. -/
  positionalBelow : Int
  /-- The least number of exponent digits. -/
  exponentWidth : Nat
  notANumber : String
  infinity : String

/-- The format in which all values are shown. -/
def FloatFormat.plain : FloatFormat :=
  { positionalFrom := -4
    positionalBelow := 16
    exponentWidth := 2
    notANumber := "nan"
    infinity := "inf" }

namespace Decimal

/-- A positive decimal in a format. -/
def write (format : FloatFormat) (decimal : Decimal) : String :=
  let digits := Nat.toDigits 10 decimal.digits
  let leading : Int := decimal.power + digits.length - 1
  if format.positionalFrom ≤ leading && leading < format.positionalBelow then
    let whole :=
      if leading < 0 then ['0']
      else
        digits.take (leading + 1).toNat ++
          List.replicate ((leading + 1).toNat - digits.length) '0'
    let fraction :=
      if leading < 0 then List.replicate (-leading - 1).toNat '0' ++ digits
      else digits.drop (leading + 1).toNat
    String.ofList (whole ++ '.' :: (if fraction.isEmpty then ['0'] else fraction))
  else
    let fraction := digits.drop 1
    let exponent := Nat.toDigits 10 leading.natAbs
    String.ofList
      (digits.take 1 ++ (if fraction.isEmpty then [] else '.' :: fraction) ++
        ['e', if leading < 0 then '-' else '+'] ++
        List.replicate (format.exponentWidth - exponent.length) '0' ++ exponent)

end Decimal

namespace Binary64

/-- A number in a format. -/
def write (format : FloatFormat) : Binary64 → String
  | .nan => format.notANumber
  | .infinite negative => (if negative then "-" else "") ++ format.infinity
  | .finite negative significand exponent =>
      (if negative then "-" else "") ++
        if significand = 0 then "0.0"
        else (shortestDecimal significand exponent).write format

/-- A number as it is shown everywhere. -/
def toText (number : Binary64) : String :=
  number.write FloatFormat.plain

end Binary64
end ComponentOutline
