import ComponentOutline.Text.Quoted

/-!
# Failed conversions

Reading a numeral, writing one and forming a code point can fail.  Each cause has
its wording here.
-/

namespace ComponentOutline

/-- The most decimal digits that are read or written at once. -/
def digitLimit : Nat := 4300

/-- Why a conversion between text and numbers failed. -/
inductive ConversionFault where
  /-- The text is no integer numeral of the base; base 0 stands for a base that the
  numeral itself announces. -/
  | notInteger (base : Nat) (text : String)
  /-- The text is no decimal numeral. -/
  | notDecimal (text : String)
  /-- The decimal numeral has more digits than are read. -/
  | tooManyDigits (count : Nat)
  /-- The integer has more decimal digits than are written. -/
  | tooLongToWrite
  /-- The floating-point number is not finite and has no numeral. -/
  | notFinite
  /-- The number is not that of a code point. -/
  | noCodePoint
  /-- The number does not even fit into the word that holds a code point. -/
  | wordOverflow
  deriving DecidableEq

/-- Keeps this many characters of a string. -/
def cut (count : Nat) (string : String) : String :=
  String.ofList (string.toList.take count)

/-- The wording of a failed conversion. -/
def ConversionFault.message : ConversionFault → String
  | .notInteger base text =>
      s!"invalid literal for int() with base {base}: " ++ cut 200 (Text.ofString text).quoted
  | .notDecimal text =>
      "could not convert string to float: " ++ (Text.ofString text).quoted
  | .tooManyDigits count =>
      s!"Exceeds the limit ({digitLimit} digits) for integer string conversion: " ++
        s!"value has {count} digits; use sys.set_int_max_str_digits() to increase the limit"
  | .tooLongToWrite =>
      s!"Exceeds the limit ({digitLimit} digits) for integer string conversion; " ++
        "use sys.set_int_max_str_digits() to increase the limit"
  | .notFinite => "Out of range float values are not JSON compliant"
  | .noCodePoint => "chr() arg not in range(0x110000)"
  | .wordOverflow => "Python int too large to convert to C int"

end ComponentOutline
