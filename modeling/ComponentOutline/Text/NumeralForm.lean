/-!
# Numeral forms of characters

Numerals may be written with the decimal digits of any script and may stand
between blanks.  Both classes are taken from version 14 of the Unicode character
database; `numeralForm` maps them to the ASCII characters that the readers of
numerals know.
-/

namespace ComponentOutline

/-- The blanks beyond ASCII. -/
def wideBlanks : List Nat :=
  [0x85, 0xA0, 0x1680, 0x2000, 0x2001, 0x2002, 0x2003, 0x2004, 0x2005, 0x2006, 0x2007,
    0x2008, 0x2009, 0x200A, 0x2028, 0x2029, 0x202F, 0x205F, 0x3000]

/-- The zero of every script beyond ASCII that has decimal digits; the other nine
digits follow it in order. -/
def wideZeros : List Nat :=
  [0x660, 0x6F0, 0x7C0, 0x966, 0x9E6, 0xA66, 0xAE6, 0xB66, 0xBE6, 0xC66, 0xCE6, 0xD66,
    0xDE6, 0xE50, 0xED0, 0xF20, 0x1040, 0x1090, 0x17E0, 0x1810, 0x1946, 0x19D0, 0x1A80,
    0x1A90, 0x1B50, 0x1BB0, 0x1C40, 0x1C50, 0xA620, 0xA8D0, 0xA900, 0xA9D0, 0xA9F0, 0xAA50,
    0xABF0, 0xFF10, 0x104A0, 0x10D30, 0x11066, 0x110F0, 0x11136, 0x111D0, 0x112F0, 0x11450,
    0x114D0, 0x11650, 0x116C0, 0x11730, 0x118E0, 0x11950, 0x11C50, 0x11D50, 0x11DA0,
    0x16A60, 0x16AC0, 0x16B50, 0x1D7CE, 0x1D7D8, 0x1D7E2, 0x1D7EC, 0x1D7F6, 0x1E140,
    0x1E2F0, 0x1E950, 0x1FBF0]

/-- The value of a decimal digit beyond ASCII. -/
def wideDigit? (point : Nat) : Option Nat :=
  (wideZeros.find? fun first => first ≤ point && point < first + 10).map (point - ·)

/-- The ASCII blanks: the plain blank and the five controls from tab to return. -/
def isBlank (character : Char) : Bool :=
  character = ' ' || (9 ≤ character.toNat && character.toNat ≤ 13)

/-- A character as the readers of numerals see it: ASCII as it is, any other blank
as a plain blank, any other decimal digit as the ASCII digit, and the rest as a
question mark, which no numeral contains. -/
def numeralForm (character : Char) : Char :=
  if character.toNat < 127 then character
  else if wideBlanks.contains character.toNat then ' '
  else
    match wideDigit? character.toNat with
    | some digit => Char.ofNat (48 + digit)
    | none => '?'

end ComponentOutline
