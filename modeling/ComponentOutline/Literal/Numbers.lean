import ComponentOutline.Number.Numeral
import ComponentOutline.Text.Lowered

/-!
# Number literals

A number literal may have underscores anywhere.  What is left without them is, in
this order: an integer of any size if it ends in `n`; a hexadecimal, octal or binary
integer by its mark; an octal integer if it is a zero and octal digits; a
floating-point number if it has a point or an exponent; and a decimal integer.
-/

namespace ComponentOutline
namespace Literal

/-- Drops the underscores of a literal. -/
def withoutUnderscores (text : String) : List Char :=
  text.toList.filter (· != '_')

/-- Whether a lowercase literal starts with the mark of a base. -/
def hasMark : List Char → Bool
  | '0' :: mark :: _ => mark = 'x' || mark = 'o' || mark = 'b'
  | _ => false

/-- Whether a literal is a zero followed by octal digits. -/
def isLegacyOctal : List Char → Bool
  | '0' :: digit :: rest => (digit :: rest).all fun c => '0' ≤ c && c ≤ '7'
  | _ => false

/-- Reads an integer literal. -/
def readWhole (radix : Numeral.Radix) (characters : List Char) :
    Except ConversionFault Number :=
  (Numeral.readInteger radix (String.ofList characters)).map .whole

/-- Reads a number literal. -/
def readNumber (text : String) : Except ConversionFault Number :=
  let cleaned := withoutUnderscores text
  let lowered := (loweredString (String.ofList cleaned)).toList
  if cleaned.getLast? = some 'n' then readWhole .announced cleaned.dropLast
  else if hasMark lowered then readWhole .announced lowered
  else if isLegacyOctal cleaned then readWhole .octal cleaned
  else if lowered.contains '.' || lowered.contains 'e' then
    (Numeral.readDecimal (String.ofList cleaned)).map .float
  else readWhole .decimal cleaned

end Literal
end ComponentOutline
