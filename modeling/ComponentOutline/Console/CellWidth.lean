import ComponentOutline.Console.CellTable
import ComponentOutline.Text.CodePoint

/-!
# Widths on a terminal

A code point takes no cell, one or two.  In a text two code points change the width of
others: a joiner hides the code point after it, and the emoji selector widens the code
point that it follows, marks apart, if that has a wide emoji form.
-/

namespace ComponentOutline

/-- The number of cells that a code point takes on its own. -/
def CodePoint.cells (point : CodePoint) : Nat :=
  if point.val < 32 then 0
  else if point.val < 0x7F then 1
  else if point.val < 0xA0 then 0
  else if CellTable.zero.covers point.val then 0
  else if CellTable.wide.covers point.val then 2
  else 1

namespace Text

/-- The joiner of emoji. -/
def joiner : CodePoint := ⟨0x200D, by omega⟩

/-- The selector of the emoji form. -/
def emojiSelector : CodePoint := ⟨0xFE0F, by omega⟩

/-- The cells that the selector adds to a code point. -/
def addedCells : Option CodePoint → Nat
  | some point => if CellTable.widened.covers point.val then 1 else 0
  | none => 0

/-- The number of cells of a text.  The flag says whether a joiner hides its first code
point; the code point is the last one before the text that takes a cell, unless a
selector came after it. -/
def cellsAfter (hidden : Bool) (last : Option CodePoint) : Text → Nat
  | [] => 0
  | point :: rest =>
      if hidden then cellsAfter false last rest
      else if point = joiner then cellsAfter true last rest
      else if point = emojiSelector then addedCells last + cellsAfter false none rest
      else
        point.cells +
          cellsAfter false (if point.cells = 0 then last else some point) rest

/-- The number of cells of a text. -/
def cells (text : Text) : Nat :=
  cellsAfter false none text

end Text
end ComponentOutline
