import ComponentOutline.Console.Argument.Literal
import ComponentOutline.Console.Emoji
import ComponentOutline.Console.Printer
import ComponentOutline.Console.Style
import ComponentOutline.Text.WordTable

/-!
# Tagged text

Text for the console may hold tags in brackets.  A tag opens a style or, with a
slash, closes one; a tag with nothing after its slash closes the style that was
opened last.  Without a terminal the tags just vanish, and what is left is shown with
its emoji codes replaced and without five controls.

A bracket starts a tag if a lowercase letter or one of `#`, `/` and `@` follows it
and a closing bracket comes before the next opening one.  Backslashes in front of a
tag halve, and an odd one makes the tag plain text.  A bracket that starts no tag
loses one backslash in front of it.

`Tagged.escape` puts backslashes in front of all tags, and `Tagged.render` is what
the console shows, together with the spans of text that have a style.
-/

namespace ComponentOutline

namespace Tagged

open CodePoint Console

/-- What stands before the next bracket of either sort. -/
def beforeBracket (text : Text) : Text :=
  text.takeWhile fun point => !(point = opening || point = closing)

/-- The next bracket of either sort and what stands after it. -/
def fromBracket (text : Text) : Text :=
  text.dropWhile fun point => !(point = opening || point = closing)

/-- The content of the tag whose opening bracket stands right before a text, and what
comes after the tag. -/
def tag? : Text → Option (Text × Text)
  | [] => none
  | first :: rest =>
      if first.startsTag then
        match fromBracket rest with
        | [] => none
        | bracket :: after =>
            if bracket = closing then some (first :: beforeBracket rest, after) else none
      else none

theorem length_fromBracket_le (text : Text) : (fromBracket text).length ≤ text.length :=
  (List.dropWhile_sublist _).length_le

/-- What comes after a tag is shorter than the text that starts with it. -/
theorem length_lt_of_tag?_eq_some
    {text content after : Text}
    (found : tag? text = some (content, after)) :
    after.length < text.length := by
  cases text with
  | nil => simp [tag?] at found
  | cons first rest =>
      have bound := length_fromBracket_le rest
      rw [tag?] at found
      split at found
      · split at found
        · cases found
        · next bracket tail same =>
            split at found
            · cases found
              rw [same] at bound
              simp only [List.length_cons] at bound ⊢
              omega
            · cases found
      · cases found

/-- A segment of tagged text, with the number of backslashes right before it. -/
inductive Segment where
  /-- A tag with its content. -/
  | tag (slashes : Nat) (content : Text)
  /-- Any other code point. -/
  | plain (slashes : Nat) (point : CodePoint)
  /-- The end of the text. -/
  | finish (slashes : Nat)

/-- The segments of a text behind a number of backslashes. -/
def segmentsAfter (slashes : Nat) : Text → List Segment
  | [] => [.finish slashes]
  | point :: rest =>
      if point = backslash then segmentsAfter (slashes + 1) rest
      else if point = opening then
        match found : tag? rest with
        | some (content, after) =>
            have := length_lt_of_tag?_eq_some found
            .tag slashes content :: segmentsAfter 0 after
        | none => .plain slashes point :: segmentsAfter 0 rest
      else .plain slashes point :: segmentsAfter 0 rest
termination_by text => text.length
decreasing_by all_goals simp only [List.length_cons]; omega

/-- The segments of a text. -/
def segments (text : Text) : List Segment :=
  segmentsAfter 0 text

namespace Segment

/-- A number of backslashes. -/
def slashRun (count : Nat) : Text :=
  List.replicate count backslash

/-- A segment as it is written. -/
def source : Segment → Text
  | .tag slashes content => slashRun slashes ++ written content
  | .plain slashes point => slashRun slashes ++ [point]
  | .finish slashes => slashRun slashes

/-- A segment as it is written when it is no tag. -/
def escaped : Segment → Text
  | .tag slashes content => slashRun (slashes + slashes + 1) ++ written content
  | segment => segment.source

end Segment

/-- Doubles a backslash that stands alone at the end. -/
def guardEnd (text : Text) : Text :=
  match text.reverse with
  | last :: before =>
      if last = backslash && before.head? ≠ some backslash then text ++ [backslash] else text
  | [] => text

/-- A text with all its tags escaped. -/
def escape (text : Text) : Text :=
  guardEnd ((segments text).flatMap Segment.escaped)

/-! ## Pieces -/

/-- A piece of tagged text.  Emoji codes do not reach from one piece into the next. -/
inductive Piece where
  /-- The text between two tags. -/
  | run (text : Text)
  /-- A tag that is plain text, or the backslashes that stay before a tag. -/
  | literal (text : Text)
  | tag (content : Text)

namespace Piece

/-- Puts text in front of pieces. -/
def addRun (text : Text) : List Piece → List Piece
  | .run more :: rest => .run (text ++ more) :: rest
  | pieces => .run text :: pieces

/-- The pieces that segments form. -/
def ofSegments : List Segment → List Piece
  | [] => []
  | .tag slashes content :: rest =>
      if slashes % 2 = 1 then
        .literal (Segment.slashRun (slashes / 2) ++ written content) :: ofSegments rest
      else .literal (Segment.slashRun (slashes / 2)) :: .tag content :: ofSegments rest
  | .plain slashes point :: rest =>
      let kept := if point = opening then slashes - 1 else slashes
      addRun (Segment.slashRun kept ++ [point]) (ofSegments rest)
  | .finish slashes :: rest => addRun (Segment.slashRun slashes) (ofSegments rest)

/-- The controls that are not shown: bell, backspace, vertical tab, form feed and
carriage return. -/
def isDropped (point : CodePoint) : Bool :=
  point.val = 7 || point.val = 8 || point.val = 11 || point.val = 12 || point.val = 13

/-- What is shown of plain text. -/
def visible (text : Text) : Text :=
  (Emoji.replaceCodes text).filter fun point => !isDropped point

/-- What is shown of a piece. -/
def shown : Piece → Text
  | .run text => visible text
  | .literal text => visible text
  | .tag _ => []

end Piece

/-- The pieces of a text. -/
def pieces (text : Text) : List Piece :=
  Piece.ofSegments (segments text)

/-! ## Tags -/

/-- A tag that is open. -/
structure OpenTag where
  /-- The normal name of the style. -/
  name : Text
  /-- What stands after the equals sign. -/
  parameters : Option Text
  /-- How much text is shown before the tag. -/
  start : Nat

/-- Shown text with a style, by the number of code points before its start and its end. -/
structure Span where
  start : Nat
  stop : Nat
  /-- The name of the style. -/
  style : Text

/-- The name in a tag, before the equals sign. -/
def tagName (content : Text) : Text :=
  content.takeWhile fun point => point ≠ ofChar '='

/-- The parameters in a tag, after the equals sign. -/
def tagParameters (content : Text) : Option Text :=
  match content.dropWhile fun point => point ≠ ofChar '=' with
  | [] => none
  | _ :: parameters => some parameters

/-- The normal name of a style, as tags need it. -/
def normalNameOf (name : Text) : Except TagFault Text :=
  name.normalName.mapError .unreadableColor

/-- Whether a code point can stand in the name of an action: letters and digits of any
script, the underscore and the point. -/
def isActionPoint (point : CodePoint) : Bool :=
  if point.val < 128 then
    (48 ≤ point.val && point.val ≤ 57) || (65 ≤ point.val && point.val ≤ 90) ||
      (97 ≤ point.val && point.val ≤ 122) || point = ofChar '_' || point = ofChar '.'
  else (WordTable.rangesFor point.val).covers point.val

/-- Whether a text stands in round brackets on one line. -/
def isBracketed (text : Text) : Bool :=
  text.head? = some (ofChar '(') && text.getLast? = some (ofChar ')') &&
    !text.contains (ofChar '\n')

/-- Whether parameters are an action: a name, which may be missing, and its arguments in
round brackets, which may be missing, too; or nothing but arguments. -/
def isAction (parameters : Text) : Bool :=
  let arguments := parameters.dropWhile isActionPoint
  arguments.isEmpty ||
    Argument.isLiteral (if isBracketed arguments then arguments else parameters)

namespace OpenTag

/-- Whether a tag stands for an action. -/
def hasAction (tag : OpenTag) : Bool :=
  tag.name.head? = some (ofChar '@')

/-- Whether a tag can be closed: the parameters of a tag for an action have to be one. -/
def isClosable (tag : OpenTag) : Bool :=
  match tag.parameters with
  | some parameters => !tag.hasAction || parameters.isEmpty || isAction parameters.trimmed
  | none => true

/-- The name of the style of a tag, parameters included. -/
def style (tag : OpenTag) : Text :=
  match tag.parameters with
  | some parameters => tag.name ++ ofChar ' ' :: parameters
  | none => tag.name

/-- The text from a tag on, up to a position. -/
def spanTo (position : Nat) (tag : OpenTag) : Span :=
  ⟨tag.start, position, tag.style⟩

end OpenTag

/-- The tags that are open, the innermost first, and the spans that are complete, the
last one first. -/
structure Marking where
  openTags : List OpenTag
  spans : List Span

namespace Marking

/-- The marking in which nothing is open or complete. -/
def start : Marking :=
  ⟨[], []⟩

/-- Opens a tag. -/
def openTag (position : Nat) (content : Text) (marking : Marking) :
    Except TagFault Marking := do
  let name ← normalNameOf (tagName content)
  return { marking with
    openTags := ⟨name, tagParameters content, position⟩ :: marking.openTags }

/-- Closes the innermost tag that satisfies a condition.  A style leaves a span; an
action leaves none. -/
def close (position : Nat) (matching : OpenTag → Bool) (marking : Marking) :
    Except TagFault Marking :=
  match marking.openTags.find? matching with
  | none => .error .nothingToClose
  | some tag =>
      if tag.isClosable then
        .ok {
          openTags := marking.openTags.eraseP matching
          spans :=
            if tag.hasAction then marking.spans else tag.spanTo position :: marking.spans }
      else .error .unreadableAction

/-- The marking after a tag. -/
def applyTag (position : Nat) (content : Text) (marking : Marking) :
    Except TagFault Marking :=
  match tagName content with
  | [] => marking.openTag position content
  | first :: rest =>
      if first = ofChar '/' then
        let label := Text.trimmed rest
        if label.isEmpty then marking.close position fun _ => true
        else do
          let target ← normalNameOf label
          marking.close position fun tag => tag.name == target
      else marking.openTag position content

/-- The marking after pieces. -/
def applyPieces (position : Nat) (marking : Marking) :
    List Piece → Except TagFault (Nat × Marking)
  | [] => .ok (position, marking)
  | .tag content :: rest => do
      applyPieces position (← marking.applyTag position content) rest
  | piece :: rest => applyPieces (position + piece.shown.length) marking rest

/-- All spans in the order of their starts, when those of open tags reach up to a
position.  Of spans with one start, the one that was completed last comes first. -/
def spansTo (position : Nat) (marking : Marking) : List Span :=
  let spans := marking.openTags.foldl
    (fun spans tag => tag.spanTo position :: spans) marking.spans
  spans.mergeSort fun first second => first.start ≤ second.start

end Marking

/-- Shown text with its spans. -/
structure Rendered where
  text : Text
  spans : List Span

/-- What the console shows of tagged text. -/
def render (text : Text) : Except TagFault Rendered := do
  let (position, marking) ← Marking.start.applyPieces 0 (pieces text)
  return ⟨(pieces text).flatMap Piece.shown, marking.spansTo position⟩

end Tagged
end ComponentOutline
