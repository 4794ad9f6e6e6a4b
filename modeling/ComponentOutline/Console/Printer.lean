import ComponentOutline.Number.Conversion
import ComponentOutline.Text.CodePoint

/-!
# Printers

Labels and messages are tagged text: a tag in brackets opens or closes a style.  What a tag
does and how text is laid out is up to a library for the console, which is used through a
printer.  A printer puts escapes before the tags of a text, and it says what is printed for
tagged text and for a tree with tagged labels, or why nothing is.
-/

namespace ComponentOutline

namespace CodePoint

/-- The bracket that opens a tag. -/
def opening : CodePoint := ofChar '['

/-- The bracket that closes a tag. -/
def closing : CodePoint := ofChar ']'

/-- The backslash. -/
def backslash : CodePoint := ofChar '\\'

/-- The colon. -/
def colon : CodePoint := ofChar ':'

/-- Whether a tag can start with a code point. -/
def startsTag (point : CodePoint) : Bool :=
  (97 ≤ point.val && point.val ≤ 122) || point = ofChar '#' || point = ofChar '/' ||
    point = ofChar '@'

end CodePoint

namespace Console

open CodePoint

/-- The line end. -/
def lineEnd : CodePoint := ofChar '\n'

/-- The tab. -/
def tab : CodePoint := ofChar '\t'

/-- The blank. -/
def blank : CodePoint := ofChar ' '

/-- A tag as it is written. -/
def written (content : Text) : Text :=
  opening :: (content ++ [closing])

/-- Lines one after the other, each with its end. -/
def joined (lines : List Text) : Text :=
  lines.flatMap fun line => line ++ [lineEnd]

/-- Why tagged text cannot be shown. -/
inductive TagFault where
  /-- A closing tag closes nothing. -/
  | nothingToClose
  /-- The action of a tag that is closed cannot be read. -/
  | unreadableAction
  /-- A color has a component that cannot be read. -/
  | unreadableColor (fault : ConversionFault)
  deriving DecidableEq

/-- Why something cannot be printed. -/
inductive PrintFault where
  | tag (fault : TagFault)
  /-- The text has no bytes in the encoding of the stream. -/
  | unencodable (text : Text)

/-- A tree with tagged labels. -/
inductive Tree where
  | mk (label : Text) (entries : List Tree)

/-- What a library for the console does with tagged text. -/
structure Printer where
  /-- A text with its tags escaped. -/
  escape : Text → Text
  /-- What is printed for tagged text. -/
  text : Text → Except PrintFault Text
  /-- What is printed for a tree. -/
  tree : Tree → Except PrintFault Text

end Console
end ComponentOutline
