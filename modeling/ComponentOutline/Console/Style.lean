import ComponentOutline.Console.Color
import ComponentOutline.Text.Lowered
import ComponentOutline.Text.Words

/-!
# Styles of a console

A tag names a style by words: emphases, each on its own or after `not`, a color, a
background after `on` and an address after `link`.  Two names mean the same style if
they have the same normal name.  The normal name of a style lists its parts in a
fixed order; a name that is no style is its own normal name, apart from case and the
blanks around it.  A name can hold the numeral of a color that cannot be read.
-/

namespace ComponentOutline

/-- What a style can switch on or off. -/
inductive Emphasis where
  | bold
  | dim
  | italic
  | underline
  | blink
  | blinkFast
  | reverse
  | conceal
  | strike
  | underlineTwice
  | frame
  | encircle
  | overline
  deriving DecidableEq

namespace Emphasis

/-- The emphases in the order of a normal name. -/
def all : List Emphasis :=
  [bold, dim, italic, underline, blink, blinkFast, reverse, conceal, strike,
    underlineTwice, frame, encircle, overline]

/-- The name of an emphasis. -/
def name : Emphasis → String
  | .bold => "bold"
  | .dim => "dim"
  | .italic => "italic"
  | .underline => "underline"
  | .blink => "blink"
  | .blinkFast => "blink2"
  | .reverse => "reverse"
  | .conceal => "conceal"
  | .strike => "strike"
  | .underlineTwice => "underline2"
  | .frame => "frame"
  | .encircle => "encircle"
  | .overline => "overline"

/-- The short name of an emphasis that has one. -/
def shortName? : Emphasis → Option String
  | .bold => some "b"
  | .dim => some "d"
  | .italic => some "i"
  | .underline => some "u"
  | .reverse => some "r"
  | .conceal => some "c"
  | .strike => some "s"
  | .underlineTwice => some "uu"
  | .overline => some "o"
  | _ => none

/-- The emphasis with a name or a short name. -/
def ofWord? (word : Text) : Option Emphasis :=
  all.find? fun emphasis =>
    word == Text.ofString emphasis.name ||
      some word == emphasis.shortName?.map Text.ofString

end Emphasis

/-- A style; what it leaves open is `none`. -/
structure Style where
  emphases : Emphasis → Option Bool
  color : Option Text
  background : Option Text
  link : Option Text

namespace Style

/-- The style that leaves everything open. -/
def plain : Style :=
  ⟨fun _ => none, none, none, none⟩

/-- Switches an emphasis on or off. -/
def switch (emphasis : Emphasis) (value : Bool) (style : Style) : Style :=
  { style with
    emphases := fun other => if other = emphasis then some value else style.emphases other }

/-- Reads the words of a style; `none` if they name no style. -/
def ofWords (style : Style) : List Text → Except ConversionFault (Option Style)
  | [] => .ok (some style)
  | word :: rest =>
      let lowered := word.lowered
      if lowered = Text.ofString "on" then
        match rest with
        | [] => .ok none
        | color :: rest => do
            if ← Color.isWord color.lowered then
              ofWords { style with background := some color.lowered } rest
            else return none
      else if lowered = Text.ofString "not" then
        match rest with
        | [] => .ok none
        | name :: rest =>
            match Emphasis.ofWord? name with
            | some emphasis => ofWords (style.switch emphasis false) rest
            | none => .ok none
      else if lowered = Text.ofString "link" then
        match rest with
        | [] => .ok none
        | address :: rest => ofWords { style with link := some address } rest
      else
        match Emphasis.ofWord? lowered with
        | some emphasis => ofWords (style.switch emphasis true) rest
        | none => do
            if ← Color.isWord lowered then
              ofWords { style with color := some lowered } rest
            else return none

/-- The words of the normal name of a style. -/
def words (style : Style) : List Text :=
  (Emphasis.all.flatMap fun emphasis =>
    match style.emphases emphasis with
    | some true => [Text.ofString emphasis.name]
    | some false => [Text.ofString "not", Text.ofString emphasis.name]
    | none => []) ++
  style.color.toList ++
  (match style.background with
    | some color => [Text.ofString "on", color]
    | none => []) ++
  match style.link with
  | some address => [Text.ofString "link", address]
  | none => []

/-- The normal name of a style. -/
def normalName (style : Style) : Text :=
  match style.words with
  | [] => Text.ofString "none"
  | words => Text.spaced words

end Style

namespace Text

/-- The style that a text names, if it names one. -/
def style (text : Text) : Except ConversionFault (Option Style) :=
  if text.trimmed = ofString "none" then .ok (some .plain)
  else Style.plain.ofWords text.words

/-- The normal name for the name of a style. -/
def normalName (name : Text) : Except ConversionFault Text := do
  match ← name.style with
  | some style => return style.normalName
  | none => return name.trimmed.lowered

end Text
end ComponentOutline
