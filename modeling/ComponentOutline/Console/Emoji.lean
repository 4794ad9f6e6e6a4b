import ComponentOutline.Console.EmojiTable
import ComponentOutline.Console.Printer
import ComponentOutline.Text.Lowered
import ComponentOutline.Text.Words

/-!
# Emoji codes

The name of an emoji between colons stands for the emoji, in any letter case.  The
name may end in `-emoji` or `-text`, which adds the selector of that presentation.  A
code that names no emoji stays as it is, both colons included; with a blank in it, it
is no code.
-/

namespace ComponentOutline
namespace Emoji

open CodePoint

/-- An emoji with its name.  No emoji holds a colon or an opening bracket, so that replacing a
code forms no other code and no tag. -/
structure Entry where
  name : Text
  emoji : Text
  noColon : colon ∉ emoji
  noOpening : opening ∉ emoji

/-- An entry of the table, with an equals sign between its parts. -/
def Entry.read? (entry : String) : Option Entry :=
  let text := Text.ofString entry
  let emoji := (text.dropWhile (· != ofChar '=')).drop 1
  if plain : colon ∉ emoji ∧ opening ∉ emoji then
    some ⟨text.takeWhile (· != ofChar '='), emoji, plain.1, plain.2⟩
  else none

/-- The emoji with their names. -/
def entries : List Entry :=
  EmojiTable.all.flatMap fun line => (line.splitOn " ").filterMap Entry.read?

/-- The emoji with a name. -/
def named? (name : Text) : Option Text :=
  let lowered := name.lowered
  (entries.find? fun entry => entry.name == lowered).map (·.emoji)

/-- What a name may end in, and the selector that this adds. -/
def presentations : List (Text × CodePoint) :=
  [(Text.ofString "-emoji", ofChar '\uFE0F'), (Text.ofString "-text", ofChar '\uFE0E')]

/-- What the content of a code stands for. -/
def ofCode? (content : Text) : Option Text :=
  match presentations.find? fun presentation => presentation.1.isSuffixOf content with
  | some (ending, selector) =>
      (named? (content.take (content.length - ending.length))).map (· ++ [selector])
  | none => named? content

/-- Whether a code point can stand inside of a code. -/
def isInside (point : CodePoint) : Bool :=
  point != colon && !point.isBlank

/-- The content of the code whose first colon stands right before a text, and what
comes after the code. -/
def code? (text : Text) : Option (Text × Text) :=
  match text.dropWhile isInside with
  | [] => none
  | point :: after => if point = colon then some (text.takeWhile isInside, after) else none

/-- What comes after a code is shorter than the text that starts with it. -/
theorem length_lt_of_code?_eq_some
    {text content after : Text}
    (found : code? text = some (content, after)) :
    after.length < text.length := by
  have bound := (List.dropWhile_sublist isInside (l := text)).length_le
  rw [code?] at found
  split at found
  · cases found
  · next point tail same =>
      split at found
      · cases found
        rw [same] at bound
        simp only [List.length_cons] at bound
        omega
      · cases found

/-- A code as it is written. -/
def written (content : Text) : Text :=
  colon :: (content ++ [colon])

/-- A text with its codes replaced. -/
def replaceCodes : Text → Text
  | [] => []
  | point :: rest =>
      if point = colon then
        match found : code? rest with
        | some (content, after) =>
            have := length_lt_of_code?_eq_some found
            (ofCode? content).getD (written content) ++ replaceCodes after
        | none => point :: replaceCodes rest
      else point :: replaceCodes rest
termination_by text => text.length
decreasing_by all_goals simp only [List.length_cons]; omega

end Emoji
end ComponentOutline
