import ComponentOutline.Text.CodePoint
import ComponentOutline.Text.NumeralForm

/-!
# Words of a text

Words are what stands between blanks.
-/

namespace ComponentOutline

/-- Whether a code point separates words. -/
def CodePoint.isBlank (point : CodePoint) : Bool :=
  (9 ≤ point.val && point.val ≤ 13) || (28 ≤ point.val && point.val ≤ 32) ||
    wideBlanks.contains point.val

namespace Text

/-- A text without the blanks around it. -/
def trimmed (text : Text) : Text :=
  ((text.dropWhile CodePoint.isBlank).reverse.dropWhile CodePoint.isBlank).reverse

/-- The words of a text. -/
def words (text : Text) : List Text :=
  (text.splitOnP CodePoint.isBlank).filter fun word => !word.isEmpty

/-- Texts with a blank between each two of them. -/
def spaced : List Text → Text
  | [] => []
  | [text] => text
  | text :: rest => text ++ CodePoint.ofChar ' ' :: spaced rest

end Text
end ComponentOutline
