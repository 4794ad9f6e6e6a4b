import ComponentOutline.Fault.Basic
import ComponentOutline.Syntax.Node
import ComponentOutline.Text.Utf16

/-!
# String literals

A string literal is a node whose named children are raw fragments and escape
sequences.  Its value is their concatenation, each escape replaced by what it stands
for, with the halves of surrogate pairs joined.
-/

namespace ComponentOutline

namespace Node

/-- The rejection of a node as part of literal data. -/
def reject (node : Node) (reason : String) : Failure :=
  .fault (.unevaluable node.kind reason node.line node.column)

/-- The source text of a node, or the failure that it is not text. -/
def readText (node : Node) : Except Failure String :=
  node.text.mapError .undecodable

theorem readText_eq_ok_iff {node : Node} {text : String} :
    node.readText = .ok text ↔ node.text = .ok text := by
  unfold readText
  constructor
  · intro read
    cases found : node.text with
    | ok decoded =>
        rw [found] at read
        cases read
        rfl
    | error fault =>
        rw [found] at read
        cases read
  · intro read
    rw [read]
    rfl

end Node

namespace Literal

/-- What a backslash and a single letter stand for. -/
def letterEscape? (letter : Char) : Option CodePoint :=
  match letter with
  | 'n' => some 10
  | 't' => some 9
  | 'r' => some 13
  | 'b' => some 8
  | 'f' => some 12
  | 'v' => some 11
  | '0' => some 0
  | _ => none

/-- The characters that continue a literal on the next line when they are escaped. -/
def isLineBreak (character : Char) : Bool :=
  character = '\r' || character = '\n' || character = '\u2028' || character = '\u2029'

/-- The octal digits. -/
def isOctalDigit (character : Char) : Bool :=
  '0' ≤ character && character ≤ '7'

/-- The braces around the number of a code point. -/
def isBrace (character : Char) : Bool :=
  character = '\x7b' || character = '\x7d'

/-- Drops braces at both ends. -/
def trimBraces (characters : List Char) : List Char :=
  ((characters.dropWhile isBrace).reverse.dropWhile isBrace).reverse

/-- The code point of a number. -/
def codePointOf (number : Int) : Except ConversionFault CodePoint :=
  if number < -0x80000000 || 0x80000000 ≤ number then .error .wordOverflow
  else if inRange : 0 ≤ number ∧ number < 0x110000 then
    .ok ⟨number.toNat, by omega⟩
  else .error .noCodePoint

/-- The code point whose number is written in a radix. -/
def numberedPoint (radix : Numeral.Radix) (digits : List Char) :
    Except ConversionFault CodePoint :=
  match Numeral.readInteger radix (String.ofList digits) with
  | .ok number => codePointOf number
  | .error fault => .error fault

/-- What the characters after the backslash of an escape stand for: nothing for a
line break, a control for a single letter, the numbered code point after `x` and `u`
and for octal digits, and otherwise themselves. -/
def escaped (body : List Char) : Except ConversionFault Text :=
  match body with
  | [] => .ok []
  | head :: tail =>
      if isLineBreak head then .ok []
      else
        match letterEscape? head, tail with
        | some point, [] => .ok [point]
        | _, _ =>
            if head = 'x' then (numberedPoint .hexadecimal tail).map ([·])
            else if head = 'u' then (numberedPoint .hexadecimal (trimBraces tail)).map ([·])
            else if body.all isOctalDigit then (numberedPoint .octal body).map ([·])
            else .ok (body.map CodePoint.ofChar)

/-- What an escape sequence stands for; its first character is the backslash. -/
def decodeEscape (sequence : String) : Except ConversionFault Text :=
  escaped (sequence.toList.drop 1)

/-- What one named child adds to a string. -/
def decodePart (part : Node) : Except Failure Text :=
  if part.kind == "escape_sequence" then do
    let sequence ← part.readText
    (decodeEscape sequence).mapError .conversion
  else if part.kind == "string_fragment" then do
    let fragment ← part.readText
    return Text.ofString fragment
  else if part.kind == "html_character_reference" then
    .error (part.reject "character references are not supported in state")
  else .ok []

/-- What the parts add up to, in order; the first failing part decides. -/
def decodeParts : List Node → Except Failure Text
  | [] => .ok []
  | part :: rest => do
      let front ← decodePart part
      let back ← decodeParts rest
      return front ++ back

/-- The value of a string literal. -/
def decodeString (node : Node) : Except Failure Text :=
  (decodeParts node.namedChildren).map Text.joinSurrogates

end Literal
end ComponentOutline
