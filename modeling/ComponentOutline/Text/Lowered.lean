import ComponentOutline.Text.CaseTable
import ComponentOutline.Text.CodePoint

/-!
# Small letters

A capital letter is lowered to its small form.  Two letters need more: the dotted
capital I becomes a small i with a dot above as a code point of its own, and the
capital sigma becomes a final sigma at the end of a word.  A word ends where no cased
code point follows; apostrophes, points and marks are passed over.
-/

namespace ComponentOutline
namespace CodePoint

/-- The code point with a number, or another one if there is none. -/
def ofNatD (number : Nat) (fallback : CodePoint) : CodePoint :=
  if valid : number < 0x110000 then ⟨number, valid⟩ else fallback

/-- Whether a code point is passed over when the end of a word is looked for. -/
def isPassedOver (point : CodePoint) : Bool :=
  if point.val < 128 then [0x27, 0x2E, 0x3A, 0x5E, 0x60].contains point.val
  else CaseTable.passedOver.covers point.val

/-- Whether a code point that is not passed over is cased. -/
def isCased (point : CodePoint) : Bool :=
  if point.val < 128 then
    (65 ≤ point.val && point.val ≤ 90) || (97 ≤ point.val && point.val ≤ 122)
  else CaseTable.cased.covers point.val

/-- Whether a run holds a code point. -/
def isInRun (point : CodePoint) (run : CaseTable.Run) : Bool :=
  run.first ≤ point.val && point.val ≤ run.last && (point.val - run.first) % run.step == 0

/-- The small form of a code point, or itself if it has none. -/
def small (point : CodePoint) : CodePoint :=
  if point.val < 128 then
    if 65 ≤ point.val && point.val ≤ 90 then ofNatD (point.val + 32) point else point
  else
    match CaseTable.runs.find? point.isInRun with
    | some run => ofNatD (run.small + (point.val - run.first)) point
    | none => point

/-- The dotted capital I. -/
def dottedCapital : CodePoint := ⟨0x130, by omega⟩

/-- The dot above a letter. -/
def dotAbove : CodePoint := ⟨0x307, by omega⟩

/-- The capital sigma. -/
def capitalSigma : CodePoint := ⟨0x3A3, by omega⟩

/-- The small sigma at the end of a word. -/
def finalSigma : CodePoint := ⟨0x3C2, by omega⟩

/-- A code point in small letters, when it is known whether it ends a word. -/
def lowered (endsWord : Bool) (point : CodePoint) : List CodePoint :=
  if point = dottedCapital then [ofChar 'i', dotAbove]
  else if point = capitalSigma && endsWord then [finalSigma]
  else [point.small]

/-- An ASCII code point is lowered on its own. -/
theorem lowered_of_ascii
    {point : CodePoint}
    (ascii : point.val < 128)
    (endsWord : Bool) :
    point.lowered endsWord = [point.small] := by
  have notDotted : point ≠ dottedCapital := by
    intro same
    subst same
    exact absurd ascii (by decide)
  have notSigma : point ≠ capitalSigma := by
    intro same
    subst same
    exact absurd ascii (by decide)
  simp [lowered, notDotted, notSigma]

end CodePoint

namespace Text

/-- Whether a word goes on with a text. -/
def continuesWord (text : Text) : Bool :=
  match text.dropWhile CodePoint.isPassedOver with
  | [] => false
  | point :: _ => point.isCased

/-- A text in small letters; the flag says whether a word stands right before it. -/
def loweredAfter (word : Bool) : Text → Text
  | [] => []
  | point :: rest =>
      point.lowered (word && !continuesWord rest) ++
        loweredAfter (if point.isPassedOver then word else point.isCased) rest

/-- A text in small letters. -/
def lowered (text : Text) : Text :=
  loweredAfter false text

/-- A text of ASCII code points is lowered code point by code point. -/
theorem loweredAfter_of_ascii
    {text : Text}
    (ascii : ∀ point ∈ text, point.val < 128)
    (word : Bool) :
    text.loweredAfter word = text.map CodePoint.small := by
  induction text generalizing word with
  | nil => rfl
  | cons point rest ih =>
      rw [loweredAfter, CodePoint.lowered_of_ascii (ascii point List.mem_cons_self),
        ih fun other member => ascii other (List.mem_cons_of_mem _ member)]
      rfl

end Text

/-- A string in small letters. -/
def loweredString (string : String) : String :=
  (Text.ofString string).lowered.toDisplay

end ComponentOutline
