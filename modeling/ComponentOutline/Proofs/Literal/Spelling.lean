import ComponentOutline.Proofs.Literal.Equations
import ComponentOutline.Proofs.Literal.Escapes
import ComponentOutline.Proofs.Number.Positional
import ComponentOutline.Proofs.Syntax.Occurrence
import ComponentOutline.Proofs.Text.Utf16

/-!
# Spellings of a string

A character of a string literal stands in a raw fragment or is escaped: by a letter, by its
number in digits of base 16 or 8, by the two halves of its pair, or by itself behind a
backslash.  Line breaks can be escaped anywhere in between and mean nothing, also between the
halves of a pair.  However a string is spelled, decoding gives it back.
-/

namespace ComponentOutline
namespace Literal

open Numeral

/-! ## Ways of writing a character -/

/-- The letters of controls. -/
def controlLetters : List (Char × Char) :=
  [('n', '\n'), ('t', '\t'), ('r', '\r'), ('b', '\x08'), ('f', '\x0c'), ('v', '\x0b'),
    ('0', '\x00')]

/-- How an escape sequence is written that stands for a character. -/
inductive Escapes (character : Char) : List Char → Prop
  | letter {letter : Char}
      (means : (letter, character) ∈ controlLetters) :
      Escapes character ['\\', letter]
  | byte {digits : List Char}
      (numeral : IsNumeral 16 digits)
      (two : digits.length = 2)
      (value : valueOf 16 digits = character.toNat) :
      Escapes character ('\\' :: 'x' :: digits)
  | unit {digits : List Char}
      (numeral : IsNumeral 16 digits)
      (four : digits.length = 4)
      (value : valueOf 16 digits = character.toNat) :
      Escapes character ('\\' :: 'u' :: digits)
  | braced {digits : List Char}
      (numeral : IsNumeral 16 digits)
      (value : valueOf 16 digits = character.toNat) :
      Escapes character ('\\' :: 'u' :: '\x7b' :: (digits ++ ['\x7d']))
  | octal {digits : List Char}
      (numeral : IsNumeral 8 digits)
      (short : digits.length ≤ 3)
      (small : character.toNat < 0x100)
      (value : valueOf 8 digits = character.toNat) :
      Escapes character ('\\' :: digits)
  /-- A character without a meaning of its own behind a backslash. -/
  | itself
      (noBreak : character ∉ ['\n', '\r', '\u2028', '\u2029'])
      (noDigit : ¬ ('0' ≤ character ∧ character ≤ '7'))
      (noMark : character ∉ ['x', 'u', 'n', 't', 'r', 'b', 'f', 'v']) :
      Escapes character ['\\', character]

/-- The escaped line breaks. -/
def continuations : List (List Char) :=
  [['\\', '\n'], ['\\', '\r'], ['\\', '\r', '\n'], ['\\', '\u2028'], ['\\', '\u2029']]

/-- A child is an escape sequence of given characters. -/
structure IsSequence (child : Node) (characters : List Char) : Prop where
  kind : child.kind = "escape_sequence"
  read : child.text = .ok (String.ofList characters)

/-- A child continues the literal on the next line. -/
def Continues (child : Node) : Prop :=
  ∃ characters ∈ continuations, IsSequence child characters

/-- A child escapes a code unit by four digits. -/
def NamesUnit (child : Node) (unit : CodeUnit) : Prop :=
  ∃ digits, IsNumeral 16 digits ∧ digits.length = 4 ∧ valueOf 16 digits = unit.val ∧
    IsSequence child ('\\' :: 'u' :: digits)

/-- A high and a low unit are the halves of a character. -/
structure AreHalvesOf (high low : CodeUnit) (character : Char) : Prop where
  isHigh : high.IsHigh
  isLow : low.IsLow
  value : character.toNat = 0x10000 + (high.val - 0xD800) * 0x400 + (low.val - 0xDC00)

/-- The children of a string literal spell characters. -/
inductive Spells : List Char → List Node → Prop
  | done : Spells [] []
  | raw {fragment : String} {child : Node} {characters : List Char} {rest : List Node}
      (kind : child.kind = "string_fragment")
      (read : child.text = .ok fragment)
      (more : Spells characters rest) :
      Spells (fragment.toList ++ characters) (child :: rest)
  | escaped {character : Char} {sequence : List Char} {child : Node}
      {characters : List Char} {rest : List Node}
      (escapes : Escapes character sequence)
      (written : IsSequence child sequence)
      (more : Spells characters rest) :
      Spells (character :: characters) (child :: rest)
  /-- The halves of a pair, with continuations between them. -/
  | pair {character : Char} {high low : CodeUnit} {first second : Node}
      {between : List Node} {characters : List Char} {rest : List Node}
      (halves : AreHalvesOf high low character)
      (namesHigh : NamesUnit first high)
      (continued : ∀ child ∈ between, Continues child)
      (namesLow : NamesUnit second low)
      (more : Spells characters rest) :
      Spells (character :: characters) (first :: (between ++ second :: rest))
  | continued {child : Node} {characters : List Char} {rest : List Node}
      (continues : Continues child)
      (more : Spells characters rest) :
      Spells characters (child :: rest)

/-! ## Escapes -/

/-- Digits whose value is a code point are numbers of it. -/
theorem numberedPoint_eq
    {radix : Radix}
    {base : Nat}
    {digits : List Char}
    (point : CodePoint)
    (numeral : IsNumeral base digits)
    (known : base ≤ 16)
    (read : readInteger radix (String.ofList digits) =
      .ok (positional base (digitsOf base digits)))
    (value : valueOf base digits = point.val) :
    numberedPoint radix digits = .ok point := by
  rw [numberedPoint, read, numeral.positional_eq known, value]
  exact codePointOf_val point

theorem numberedPoint_hexadecimal
    {digits : List Char}
    (point : CodePoint)
    (numeral : IsNumeral 16 digits)
    (value : valueOf 16 digits = point.val) :
    numberedPoint .hexadecimal digits = .ok point :=
  numberedPoint_eq point numeral (by decide)
    (readInteger_hexadecimal (numeral.isPlain (by decide))) value

/-- Digits behind a `u` stand for any code point, be it a surrogate. -/
theorem decodeEscape_unit
    {digits : List Char}
    (point : CodePoint)
    (numeral : IsNumeral 16 digits)
    (value : valueOf 16 digits = point.val) :
    decodeEscape (String.ofList ('\\' :: 'u' :: digits)) = .ok [point] := by
  rw [decodeEscape_ofList, escaped_unit, trimBraces_bare (numeral.isPlain (by decide)),
    numberedPoint_hexadecimal point numeral value]
  rfl

/-- A character without a meaning of its own is escaped by itself. -/
theorem escaped_itself
    {character : Char}
    (noBreak : character ∉ ['\n', '\r', '\u2028', '\u2029'])
    (noDigit : ¬ ('0' ≤ character ∧ character ≤ '7'))
    (noMark : character ∉ ['x', 'u', 'n', 't', 'r', 'b', 'f', 'v']) :
    escaped [character] = .ok [CodePoint.ofChar character] := by
  have noOctal : isOctalDigit character = false := by
    rwa [Bool.eq_false_iff, isOctalDigit, ne_eq, Bool.and_eq_true, decide_eq_true_eq,
      decide_eq_true_eq]
  simp only [List.mem_cons, List.not_mem_nil, or_false, not_or] at noBreak noMark
  have goesOn : isLineBreak character = false := by
    simp [isLineBreak, noBreak]
  -- the zero is the one digit among the letters of controls
  have notZero : character ≠ '0' := by
    rintro rfl
    exact noDigit (by decide)
  have noLetter : letterEscape? character = none := by
    simp [letterEscape?, noMark]
  simp [escaped, goesOn, noLetter, noMark, noOctal]

/-- An escape that is written for a character stands for it. -/
theorem Escapes.decodeEscape_eq
    {character : Char}
    {sequence : List Char}
    (escapes : Escapes character sequence) :
    decodeEscape (String.ofList sequence) = .ok [CodePoint.ofChar character] := by
  cases escapes with
  | letter means =>
      simp only [controlLetters, List.mem_cons, Prod.mk.injEq, List.not_mem_nil, or_false] at means
      rw [decodeEscape_ofList]
      obtain ⟨rfl, rfl⟩ | ⟨rfl, rfl⟩ | ⟨rfl, rfl⟩ | ⟨rfl, rfl⟩ | ⟨rfl, rfl⟩ | ⟨rfl, rfl⟩ |
        ⟨rfl, rfl⟩ := means
      all_goals rfl
  | byte numeral two value =>
      rw [decodeEscape_ofList]
      change (numberedPoint .hexadecimal _).map _ = _
      rw [numberedPoint_hexadecimal (CodePoint.ofChar character) numeral value]
      rfl
  | unit numeral four value => exact decodeEscape_unit (CodePoint.ofChar character) numeral value
  | braced numeral value =>
      rw [decodeEscape_ofList, escaped_unit, trimBraces_braced (numeral.isPlain (by decide)),
        numberedPoint_hexadecimal (CodePoint.ofChar character) numeral value]
      rfl
  | octal numeral short small value =>
      have plain := numeral.isPlain (by decide)
      rw [decodeEscape_ofList, escaped_octal plain,
        numberedPoint_eq (CodePoint.ofChar character) numeral (by decide)
          (readInteger_octal plain) value]
      rfl
  | itself noBreak noDigit noMark =>
      rw [decodeEscape_ofList]
      exact escaped_itself noBreak noDigit noMark

/-! ## Parts -/

theorem IsSequence.decodePart_eq
    {child : Node}
    {characters : List Char}
    (sequence : IsSequence child characters) :
    decodePart child = (decodeEscape (String.ofList characters)).mapError .conversion :=
  decodePart_of_escape sequence.kind (Node.readText_eq_ok_iff.mpr sequence.read)

/-- An escape of a code unit is decoded to that unit alone. -/
theorem NamesUnit.decodePart_eq
    {child : Node}
    {unit : CodeUnit}
    (names : NamesUnit child unit) :
    decodePart child = .ok [unit.toPoint] := by
  obtain ⟨digits, numeral, -, value, sequence⟩ := names
  rw [sequence.decodePart_eq, decodeEscape_unit unit.toPoint numeral value]
  rfl

theorem Continues.decodePart_eq
    {child : Node}
    (continues : Continues child) :
    decodePart child = .ok [] := by
  obtain ⟨characters, isContinuation, sequence⟩ := continues
  rw [sequence.decodePart_eq]
  simp only [continuations, List.mem_cons, List.not_mem_nil, or_false] at isContinuation
  obtain rfl | rfl | rfl | rfl | rfl := isContinuation
  all_goals
    rw [decodeEscape_ofList]
    rfl

theorem decodeParts_cons
    {child : Node}
    {rest : List Node}
    {front back : Text}
    (here : decodePart child = .ok front)
    (others : decodeParts rest = .ok back) :
    decodeParts (child :: rest) = .ok (front ++ back) := by
  rw [decodeParts, here, others]
  rfl

/-- Continuations add nothing. -/
theorem decodeParts_continued
    {between rest : List Node}
    {text : Text}
    (continued : ∀ child ∈ between, Continues child)
    (decoded : decodeParts rest = .ok text) :
    decodeParts (between ++ rest) = .ok text := by
  induction between with
  | nil => exact decoded
  | cons child others inductionHypothesis =>
      obtain ⟨here, continuedOthers⟩ := List.forall_mem_cons.mp continued
      exact decodeParts_cons here.decodePart_eq (inductionHypothesis continuedOthers)

/-- The halves of a character are its code units. -/
theorem AreHalvesOf.units_eq
    {high low : CodeUnit}
    {character : Char}
    (halves : AreHalvesOf high low character) :
    (CodePoint.ofChar character).units = [high, low] := by
  have joined : CodeUnit.pair? high low = some (CodePoint.ofChar character) :=
    CodeUnit.pair?_eq_some_iff.mpr ⟨halves.isHigh, halves.isLow, halves.value⟩
  exact (CodeUnit.units_of_pair? joined).1

/-! ## Strings -/

/-- The parts of a spelling have the units of the characters.  A pair that is spelled by its
halves is not joined yet. -/
theorem Spells.decodeParts_units
    {characters : List Char}
    {children : List Node}
    (spells : Spells characters children) :
    ∃ text, decodeParts children = .ok text ∧
      text.units = Text.units (characters.map CodePoint.ofChar) := by
  induction spells with
  | done => exact ⟨[], rfl, rfl⟩
  | @raw fragment child characters rest kind read more inductionHypothesis =>
      obtain ⟨text, decoded, sameUnits⟩ := inductionHypothesis
      have part := decodePart_of_fragment kind (Node.readText_eq_ok_iff.mpr read)
      refine ⟨_, decodeParts_cons part decoded, ?_⟩
      rw [Text.units_append, sameUnits, List.map_append, Text.units_append, Text.ofString]
  | @escaped character sequence child characters rest escapes written more inductionHypothesis =>
      obtain ⟨text, decoded, sameUnits⟩ := inductionHypothesis
      have part : decodePart child = .ok [CodePoint.ofChar character] := by
        rw [written.decodePart_eq, escapes.decodeEscape_eq]
        rfl
      refine ⟨_, decodeParts_cons part decoded, ?_⟩
      rw [List.singleton_append, Text.units_cons, sameUnits, List.map_cons, Text.units_cons]
  | @pair character high low first second between characters rest halves namesHigh continued
      namesLow more inductionHypothesis =>
      obtain ⟨text, decoded, sameUnits⟩ := inductionHypothesis
      have fromLow := decodeParts_cons namesLow.decodePart_eq decoded
      have fromHigh := decodeParts_cons namesHigh.decodePart_eq
        (decodeParts_continued continued fromLow)
      refine ⟨_, fromHigh, ?_⟩
      rw [List.singleton_append, List.singleton_append, Text.units_cons, Text.units_cons,
        CodeUnit.units_toPoint, CodeUnit.units_toPoint, sameUnits, List.map_cons,
        Text.units_cons, halves.units_eq]
      rfl
  | @continued child characters rest continues more inductionHypothesis =>
      obtain ⟨text, decoded, sameUnits⟩ := inductionHypothesis
      exact ⟨text, decodeParts_cons continues.decodePart_eq decoded, sameUnits⟩

/-- A string literal whose children spell a string is decoded to it. -/
theorem decodeString_undoes_spelling
    {node : Node}
    {string : String}
    (spells : Spells string.toList node.namedChildren) :
    decodeString node = .ok (Text.ofString string) := by
  obtain ⟨text, decoded, sameUnits⟩ := spells.decodeParts_units
  rw [decodeString, decoded]
  exact congrArg Except.ok (Text.joinSurrogates_eq (Text.isFree_ofString string) sameUnits)

/-- A string with a fragment, escapes of several forms and a pair whose halves stand on two
lines. -/
def spelledString : Node :=
  .ofText "string" none "'a\\xE9\\uD83D\\\r\n\\uDE00\\n\\101\\/'" [
    .ofText "string_fragment" none "a" [],
    .ofText "escape_sequence" none "\\xE9" [],
    .ofText "escape_sequence" none "\\uD83D" [],
    .ofText "escape_sequence" none "\\\r\n" [],
    .ofText "escape_sequence" none "\\uDE00" [],
    .ofText "escape_sequence" none "\\n" [],
    .ofText "escape_sequence" none "\\101" [],
    .ofText "escape_sequence" none "\\/" []]

theorem spells_spelledString : Spells "aé😀\nA/".toList spelledString.namedChildren := by
  have byte : Escapes 'é' ['\\', 'x', 'E', '9'] :=
    .byte (by decide) rfl (by decide)
  have letter : Escapes '\n' ['\\', 'n'] := .letter (by decide)
  have octal : Escapes 'A' ['\\', '1', '0', '1'] :=
    .octal (by decide) (by decide) (by decide) (by decide)
  have itself : Escapes '/' ['\\', '/'] := .itself (by decide) (by decide) (by decide)
  have halves : AreHalvesOf 0xD83D 0xDE00 '😀' :=
    ⟨⟨by decide, by decide⟩, ⟨by decide, by decide⟩, by decide⟩
  have high : NamesUnit (.ofText "escape_sequence" none "\\uD83D" []) 0xD83D :=
    ⟨['D', '8', '3', 'D'], by decide, rfl, by decide, rfl, rfl⟩
  have low : NamesUnit (.ofText "escape_sequence" none "\\uDE00" []) 0xDE00 :=
    ⟨['D', 'E', '0', '0'], by decide, rfl, by decide, rfl, rfl⟩
  have continued : ∀ child ∈ [Node.ofText "escape_sequence" none "\\\r\n" []],
      Continues child := by
    intro child isMember
    obtain rfl := List.mem_singleton.mp isMember
    exact ⟨['\\', '\r', '\n'], by decide, rfl, rfl⟩
  change Spells ("a".toList ++ ['é', '😀', '\n', 'A', '/']) _
  refine .raw rfl rfl (.escaped byte ⟨rfl, rfl⟩ (.pair halves high continued low ?_))
  exact .escaped letter ⟨rfl, rfl⟩ (.escaped octal ⟨rfl, rfl⟩ (.escaped itself ⟨rfl, rfl⟩ .done))

/-- A string with a fragment, escapes of several sorts and a continuation. -/
theorem decodeString_undoes_spelling_spelledString :
    decodeString spelledString = .ok (Text.ofString "aé😀\nA/") :=
  decodeString_undoes_spelling spells_spelledString

end Literal
end ComponentOutline
