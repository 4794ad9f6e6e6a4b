import ComponentOutline.Number.Binary64
import ComponentOutline.Number.Conversion
import ComponentOutline.Text.NumeralForm

/-!
# Reading numerals

An integer numeral is a sign, an optional mark of its base and digits, single
underscores being allowed between digits, with blanks around it.  A decimal
numeral has a point or an exponent in place of a base.  The value of digits is
`positional`, apart from how they are found.
-/

namespace ComponentOutline

/-- A number as literals have it: a whole number of any size, or a floating-point
number. -/
inductive Number where
  | whole (value : Int)
  | float (value : Binary64)
  deriving DecidableEq

namespace Number

/-- The opposite number. -/
def negate : Number → Number
  | .whole value => .whole (-value)
  | .float value => .float value.negate

end Number

namespace Numeral

/-- Which base a reader expects. -/
inductive Radix where
  /-- The base that the numeral announces, ten by default. -/
  | announced
  | octal
  | decimal
  | hexadecimal
  deriving DecidableEq

/-- The number by which faults name a radix. -/
def Radix.label : Radix → Nat
  | .announced => 0
  | .octal => 8
  | .decimal => 10
  | .hexadecimal => 16

/-- The value of an ASCII digit or letter as a digit. -/
def digitValue (character : Char) : Option Nat :=
  if character.isDigit then some (character.toNat - 48)
  else if character.isLower then some (character.toNat - 87)
  else if character.isUpper then some (character.toNat - 55)
  else none

/-- The value of a digit of a base. -/
def digitOf? (base : Nat) (character : Char) : Option Nat :=
  (digitValue character).filter (· < base)

/-- The value of digits in a base, the most significant first. -/
def positional (base : Nat) (digits : List Nat) : Nat :=
  digits.foldl (fun value digit => value * base + digit) 0

/-- Splits off digits and the underscores between them.  The flag says whether a
digit was just read: only then may an underscore follow or the digits end. -/
def scanDigits (base : Nat) : Bool → List Char → Option (List Nat × List Char)
  | afterDigit, [] => if afterDigit then some ([], []) else none
  | afterDigit, character :: rest =>
      if character = '_' then
        if afterDigit then scanDigits base false rest else none
      else
        match digitOf? base character with
        | some digit =>
            (scanDigits base true rest).map fun (digits, rest) => (digit :: digits, rest)
        | none => if afterDigit then some ([], character :: rest) else none

/-- Splits off a sign; the flag says whether it is a minus. -/
def splitSign : List Char → Bool × List Char
  | '-' :: rest => (true, rest)
  | '+' :: rest => (false, rest)
  | rest => (false, rest)

/-- The digits to read, in which base, and whether they must be worth zero. -/
structure Body where
  base : Nat
  onlyZero : Bool
  digits : List Char

/-- Drops one underscore, which may stand between the mark of a base and the
digits. -/
def dropUnderscore : List Char → List Char
  | '_' :: rest => rest
  | rest => rest

/-- Splits off the mark of a base.  A numeral that announces no base but starts
with a zero has to be zero. -/
def splitMark : Radix → List Char → Body
  | .announced, '0' :: mark :: rest =>
      if mark = 'x' || mark = 'X' then ⟨16, false, dropUnderscore rest⟩
      else if mark = 'o' || mark = 'O' then ⟨8, false, dropUnderscore rest⟩
      else if mark = 'b' || mark = 'B' then ⟨2, false, dropUnderscore rest⟩
      else ⟨10, true, '0' :: mark :: rest⟩
  | .octal, '0' :: mark :: rest =>
      if mark = 'o' || mark = 'O' then ⟨8, false, dropUnderscore rest⟩
      else ⟨8, false, '0' :: mark :: rest⟩
  | .hexadecimal, '0' :: mark :: rest =>
      if mark = 'x' || mark = 'X' then ⟨16, false, dropUnderscore rest⟩
      else ⟨16, false, '0' :: mark :: rest⟩
  | .octal, rest => ⟨8, false, rest⟩
  | .hexadecimal, rest => ⟨16, false, rest⟩
  | _, rest => ⟨10, false, rest⟩

/-- Reads an integer numeral. -/
def readInteger (radix : Radix) (text : String) : Except ConversionFault Int :=
  let characters := (text.toList.map numeralForm).dropWhile isBlank
  let (negative, unsigned) := splitSign characters
  let body := splitMark radix unsigned
  match scanDigits body.base false body.digits with
  | none => .error (.notInteger radix.label text)
  | some (digits, rest) =>
      if body.base = 10 && digitLimit < digits.length then
        .error (.tooManyDigits digits.length)
      else
        let value := positional body.base digits
        if !rest.all isBlank || (body.onlyZero && value ≠ 0) then
          .error (.notInteger radix.label text)
        else
          .ok (if negative then -(value : Int) else (value : Int))

/-- The digits at the start of characters, and what follows them. -/
def spanDigits (characters : List Char) : List Nat × List Char :=
  ((characters.takeWhile Char.isDigit).filterMap digitValue, characters.dropWhile Char.isDigit)

/-- Splits off digits after a point. -/
def splitFraction : List Char → List Nat × List Char
  | '.' :: rest => spanDigits rest
  | rest => ([], rest)

/-- Reads a power of ten up to the end; no characters mean the power 0. -/
def readPower? : List Char → Option Int
  | [] => some 0
  | mark :: rest =>
      if mark = 'e' || mark = 'E' then
        let (negative, unsigned) := splitSign rest
        let (digits, rest) := spanDigits unsigned
        if digits.isEmpty || !rest.isEmpty then none
        else
          let value := positional 10 digits
          some (if negative then -(value : Int) else (value : Int))
      else none

/-- Drops blanks at both ends. -/
def trimBlanks (characters : List Char) : List Char :=
  ((characters.dropWhile isBlank).reverse.dropWhile isBlank).reverse

/-- Reads a decimal numeral as the nearest floating-point number. -/
def readDecimal (text : String) : Except ConversionFault Binary64 :=
  let (negative, unsigned) := splitSign (trimBlanks (text.toList.map numeralForm))
  let (whole, rest) := spanDigits unsigned
  let (fraction, rest) := splitFraction rest
  match readPower? rest with
  | some power =>
      if whole.isEmpty && fraction.isEmpty then .error (.notDecimal text)
      else
        .ok (Binary64.ofDecimal negative (positional 10 (whole ++ fraction))
          (power - fraction.length))
  | none => .error (.notDecimal text)

end Numeral

/-- The decimal numeral of an integer, unless it is too long. -/
def writeInteger (value : Int) : Except ConversionFault String :=
  let digits := toString value.natAbs
  if digitLimit < digits.length then .error .tooLongToWrite
  else .ok (if value < 0 then "-" ++ digits else digits)

end ComponentOutline
