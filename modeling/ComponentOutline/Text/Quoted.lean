import ComponentOutline.Text.Printable

/-!
# Quoted text

Values are shown with their strings in quotes.  Single quotes are used unless
the text holds one and no double quote.  The quote, the backslash and the three
common controls get a short escape, and every other unprintable code point its
number in hexadecimal.
-/

namespace ComponentOutline

/-- A number in lowercase hexadecimal, filled with zeros up to a width. -/
def hexDigits (width number : Nat) : String :=
  let digits := Nat.toDigits 16 number
  String.ofList (List.replicate (width - digits.length) '0' ++ digits)

namespace CodePoint

/-- A code point inside quotes. -/
def quotedBy (quote : Char) (point : CodePoint) : String :=
  if point = ofChar quote then String.ofList ['\\', quote]
  else if point.val = 92 then "\\\\"
  else if point.val = 9 then "\\t"
  else if point.val = 10 then "\\n"
  else if point.val = 13 then "\\r"
  else if point.isPrintable then String.ofList [Char.ofNat point.val]
  else if point.val < 0x100 then "\\x" ++ hexDigits 2 point.val
  else if point.val < 0x10000 then "\\u" ++ hexDigits 4 point.val
  else "\\U" ++ hexDigits 8 point.val

end CodePoint

namespace Text

/-- The quote that a text is shown in. -/
def quoteMark (text : Text) : Char :=
  if text.contains (CodePoint.ofChar '\'') && !text.contains (CodePoint.ofChar '"') then '"'
  else '\''

/-- A text in quotes. -/
def quoted (text : Text) : String :=
  let quote := text.quoteMark
  String.ofList [quote] ++ String.join (text.map (CodePoint.quotedBy quote)) ++
    String.ofList [quote]

end Text
end ComponentOutline
