import ComponentOutline.Console.CellWidth
import ComponentOutline.Console.Tagged

/-!
# Lines on a console

Before tagged text is printed, it is split at its line ends, and in each line a tab is
widened up to the next multiple of eight cells.  The styles are not printed, but every
style that has something to show has to be readable.
-/

namespace ComponentOutline
namespace Console

open CodePoint

/-- The cells from one tab stop to the next. -/
def tabWidth : Nat := 8

/-- The parts of a line between its tabs, from a cell on, with the tabs widened.  A tab
is at least one blank, which is measured with the part before it. -/
def widenFrom (column : Nat) : List Text → Text
  | [] => []
  | [part] => part
  | part :: rest =>
      let reached := column + (part ++ [blank]).cells
      let added := (tabWidth - reached % tabWidth) % tabWidth
      part ++ List.replicate (1 + added) blank ++ widenFrom (reached + added) rest

/-- A line with its tabs widened. -/
def widen (line : Text) : Text :=
  widenFrom 0 (line.splitOn tab)

/-- The lines that plain text is printed in. -/
def linesOf (text : Text) : List Text :=
  (text.splitOn lineEnd).map widen

/-- Whether the style of a span is looked at: in a text of one line without tabs always,
otherwise if the span holds more than line ends. -/
def isStyled (text : Text) (span : Tagged.Span) : Bool :=
  !(text.contains lineEnd || text.contains tab) ||
    ((text.take span.stop).drop span.start).any fun point => point != lineEnd

/-- Looks at the styles of spans. -/
def checkStyles (spans : List Tagged.Span) : Except TagFault Unit :=
  spans.forM fun span => do
    let _ ← span.style.style.mapError TagFault.unreadableColor
    return ()

/-- What is shown of tagged text, before it is laid out in lines. -/
def shown (text : Text) : Except TagFault Text := do
  let rendered ← Tagged.render text
  checkStyles (rendered.spans.filter (isStyled rendered.text))
  return rendered.text

/-- The lines that tagged text is printed in.  None of them is broken: the page is as wide as
the longest one. -/
def lines (text : Text) : Except TagFault (List Text) :=
  (shown text).map linesOf

/-- What is printed for tagged text. -/
def printed (text : Text) : Except TagFault Text :=
  (lines text).map joined

end Console
end ComponentOutline
