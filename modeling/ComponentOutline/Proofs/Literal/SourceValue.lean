import ComponentOutline.Proofs.Number.Positional
import ComponentOutline.Text.Utf16

/-!
# The value of the source of a string

The grammar of the language divides the characters between the quotes of a string literal into
plain characters and escapes, and it says which code units each of them stands for.  How far
an escape goes may depend on what follows it: a carriage return takes a line feed with it, and
octal digits belong to an escape as long as their value is not beyond 377.  The characters of
a string have no more than one value.
-/

namespace ComponentOutline
namespace Literal

open Numeral

/-! ## The grammar -/

/-- The characters that end a line. -/
def lineTerminators : List Char :=
  ['\n', '\r', '\u2028', '\u2029']

/-- The characters with a meaning of their own behind a backslash, and what they mean. -/
def singleEscapes : List (Char × Char) :=
  [('\'', '\''), ('"', '"'), ('\\', '\\'), ('b', '\x08'), ('f', '\x0c'), ('n', '\n'),
    ('r', '\r'), ('t', '\t'), ('v', '\x0b')]

/-- An octal digit is the next character. -/
def OctalFollows (following : List Char) : Prop :=
  ∃ digit ∈ following.head?, worth digit < 8

/-- The digits of an octal escape in front of given characters. -/
inductive IsOctalEscape : List Char → List Char → Prop
  | one {digit : Char} {following : List Char}
      (octal : worth digit < 8)
      (ends : ¬ OctalFollows following) :
      IsOctalEscape [digit] following
  | two {first second : Char} {following : List Char}
      (small : worth first < 4)
      (octal : worth second < 8)
      (ends : ¬ OctalFollows following) :
      IsOctalEscape [first, second] following
  /-- A third digit would lead beyond 377. -/
  | twoLarge {first second : Char} {following : List Char}
      (large : 4 ≤ worth first)
      (octalFirst : worth first < 8)
      (octal : worth second < 8) :
      IsOctalEscape [first, second] following
  | three {first second third : Char} {following : List Char}
      (small : worth first < 4)
      (octal : worth second < 8)
      (octalThird : worth third < 8) :
      IsOctalEscape [first, second, third] following

/-- The characters of an escape behind its backslash and in front of given characters, and
the code units that they stand for. -/
inductive EscapeValue : List Char → List Char → List CodeUnit → Prop
  | single {letter character : Char} {following : List Char}
      (means : (letter, character) ∈ singleEscapes) :
      EscapeValue [letter] following (CodePoint.ofChar character).units
  /-- A character without a meaning of its own. -/
  | itself {character : Char} {following : List Char}
      (noSingle : character ∉ singleEscapes.map Prod.fst)
      (noDigit : ¬ worth character < 10)
      (noMark : character ≠ 'x' ∧ character ≠ 'u')
      (noBreak : character ∉ lineTerminators) :
      EscapeValue [character] following (CodePoint.ofChar character).units
  | decimal {digit : Char} {following : List Char}
      (noOctal : digit = '8' ∨ digit = '9') :
      EscapeValue [digit] following (CodePoint.ofChar digit).units
  | octal {digits following : List Char} {point : CodePoint}
      (escape : IsOctalEscape digits following)
      (value : valueOf 8 digits = point.val) :
      EscapeValue digits following point.units
  | byte {digits following : List Char} {point : CodePoint}
      (numeral : IsNumeral 16 digits)
      (two : digits.length = 2)
      (value : valueOf 16 digits = point.val) :
      EscapeValue ('x' :: digits) following point.units
  | unit {digits following : List Char} {point : CodePoint}
      (numeral : IsNumeral 16 digits)
      (four : digits.length = 4)
      (value : valueOf 16 digits = point.val) :
      EscapeValue ('u' :: digits) following point.units
  | braced {digits following : List Char} {point : CodePoint}
      (numeral : IsNumeral 16 digits)
      (value : valueOf 16 digits = point.val) :
      EscapeValue ('u' :: '\x7b' :: (digits ++ ['\x7d'])) following point.units
  /-- An escaped line break stands for nothing. -/
  | lineBreak {terminator : Char} {following : List Char}
      (terminates : terminator ∈ lineTerminators)
      (alone : terminator = '\r' → following.head? ≠ some '\n') :
      EscapeValue [terminator] following []
  | lineBreaks {following : List Char} :
      EscapeValue ['\r', '\n'] following []

/-- A character stands for itself between the given quotes. -/
def IsRaw (quote character : Char) : Prop :=
  character ∉ [quote, '\\', '\n', '\r']

/-- The characters between the quotes of a string literal and the code units of its value. -/
inductive SourceValue (quote : Char) : List Char → List CodeUnit → Prop
  | done : SourceValue quote [] []
  | raw {character : Char} {rest : List Char} {units : List CodeUnit}
      (raw : IsRaw quote character)
      (more : SourceValue quote rest units) :
      SourceValue quote (character :: rest) ((CodePoint.ofChar character).units ++ units)
  | escape {body rest : List Char} {value units : List CodeUnit}
      (escape : EscapeValue body rest value)
      (more : SourceValue quote rest units) :
      SourceValue quote ('\\' :: (body ++ rest)) (value ++ units)

/-! ## One value -/

/-- The code units of a number, none if it is beyond the last code point. -/
def numberUnits (number : Nat) : List CodeUnit :=
  if known : number < 0x110000 then CodePoint.units ⟨number, known⟩ else []

theorem numberUnits_val (point : CodePoint) : numberUnits point.val = point.units :=
  dif_pos point.isLt

/-- The octal digits that an escape takes from characters. -/
def octalDigits : List Char → List Char
  | [] => []
  | first :: rest =>
      first :: (rest.take (if worth first < 4 then 2 else 1)).takeWhile (worth · < 8)

/-- Reads the escape at the front of characters: how many it takes, and its code units. -/
def readEscape (characters : List Char) : Nat × List CodeUnit :=
  match characters with
  | [] => (0, [])
  | head :: tail =>
      if head = 'x' then (3, numberUnits (valueOf 16 (tail.take 2)))
      else if head = 'u' then
        if tail.head? = some '\x7b' then
          let digits := tail.tail.takeWhile (· ≠ '\x7d')
          (digits.length + 3, numberUnits (valueOf 16 digits))
        else (5, numberUnits (valueOf 16 (tail.take 4)))
      else if worth head < 8 then
        ((octalDigits characters).length, numberUnits (valueOf 8 (octalDigits characters)))
      else if head = '\r' ∧ tail.head? = some '\n' then (2, [])
      else if head ∈ lineTerminators then (1, [])
      else (1, (CodePoint.ofChar ((singleEscapes.lookup head).getD head)).units)

/-- Octal digits go on if the next character is one of them. -/
theorem octalFollows_cons {next : Char} {rest : List Char} :
    OctalFollows (next :: rest) ↔ worth next < 8 := by
  simp [OctalFollows]

/-- An octal escape takes exactly its digits. -/
theorem IsOctalEscape.octalDigits_eq
    {digits following : List Char}
    (escape : IsOctalEscape digits following) :
    octalDigits (digits ++ following) = digits := by
  cases escape with
  | @one digit following octal ends =>
      cases following with
      | nil => simp [octalDigits]
      | cons next rest =>
          rw [octalFollows_cons] at ends
          simp only [octalDigits, List.cons_append, List.nil_append]
          split
          · simp [ends]
          · simp [ends]
  | @two first second following small octal ends =>
      cases following with
      | nil => simp [octalDigits, small, octal]
      | cons next rest =>
          rw [octalFollows_cons] at ends
          simp [octalDigits, small, octal, ends]
  | twoLarge large octalFirst octal =>
      simp [octalDigits, Nat.not_lt.mpr large, octal]
  | three small octal octalThird =>
      simp [octalDigits, small, octal, octalThird]

theorem IsOctalEscape.head
    {digits following : List Char}
    (escape : IsOctalEscape digits following) :
    ∃ first rest, digits = first :: rest ∧ worth first < 8 := by
  cases escape with
  | one octal ends => exact ⟨_, _, rfl, octal⟩
  | two small octal ends => exact ⟨_, _, rfl, by omega⟩
  | twoLarge large octalFirst octal => exact ⟨_, _, rfl, octalFirst⟩
  | three small octal octalThird => exact ⟨_, _, rfl, by omega⟩

theorem readEscape_single
    {letter character : Char}
    (means : (letter, character) ∈ singleEscapes)
    (following : List Char) :
    readEscape (letter :: following) = (1, (CodePoint.ofChar character).units) := by
  simp only [singleEscapes, List.mem_cons, Prod.mk.injEq, List.not_mem_nil, or_false] at means
  obtain ⟨rfl, rfl⟩ | ⟨rfl, rfl⟩ | ⟨rfl, rfl⟩ | ⟨rfl, rfl⟩ | ⟨rfl, rfl⟩ | ⟨rfl, rfl⟩ |
    ⟨rfl, rfl⟩ | ⟨rfl, rfl⟩ | ⟨rfl, rfl⟩ := means
  all_goals rfl

/-- Any other character stands for itself. -/
theorem readEscape_itself
    {character : Char}
    (noSingle : character ∉ singleEscapes.map Prod.fst)
    (noDigit : ¬ worth character < 10)
    (noMark : character ≠ 'x' ∧ character ≠ 'u')
    (noBreak : character ∉ lineTerminators)
    (following : List Char) :
    readEscape (character :: following) = (1, (CodePoint.ofChar character).units) := by
  have noOctal : ¬ worth character < 8 := by omega
  have noReturn : character ≠ '\r' := by
    rintro rfl
    exact noBreak (by decide)
  have unlisted : singleEscapes.lookup character = none := by
    rw [List.lookup_eq_none_iff]
    intro entry isEntry
    rw [bne_iff_ne]
    rintro rfl
    exact noSingle (List.mem_map_of_mem isEntry)
  simp [readEscape, noMark, noOctal, noReturn, noBreak, unlisted]

/-- Octal digits are read as far as the grammar lets them go. -/
theorem readEscape_octal
    {digits following : List Char}
    (escape : IsOctalEscape digits following) :
    readEscape (digits ++ following) = (digits.length, numberUnits (valueOf 8 digits)) := by
  have taken := escape.octalDigits_eq
  obtain ⟨first, rest, rfl, octal⟩ := escape.head
  have noByte : first ≠ 'x' := by
    rintro rfl
    exact absurd octal (by decide)
  have noUnit : first ≠ 'u' := by
    rintro rfl
    exact absurd octal (by decide)
  rw [List.cons_append] at taken ⊢
  simp only [readEscape, noByte, noUnit, octal, if_false, if_true, taken]

/-- The digits in braces go up to the closing brace. -/
theorem takeWhile_numeral
    {digits : List Char}
    (numeral : IsNumeral 16 digits)
    (following : List Char) :
    (digits ++ '\x7d' :: following).takeWhile (· ≠ '\x7d') = digits := by
  have noBrace : ∀ digit ∈ digits, decide (digit ≠ '\x7d') = true := by
    intro digit isMember
    rw [decide_eq_true_eq]
    rintro rfl
    exact absurd (numeral.worth_lt _ isMember) (by decide)
  rw [List.takeWhile_append_of_pos noBrace]
  simp

/-- Four hexadecimal digits name a code unit. -/
theorem readEscape_unit
    {digits : List Char}
    (numeral : IsNumeral 16 digits)
    (four : digits.length = 4)
    (following : List Char) :
    readEscape ('u' :: (digits ++ following)) = (5, numberUnits (valueOf 16 digits)) := by
  have taken : (digits ++ following).take 4 = digits := by
    rw [← four, List.take_left]
  have noByte : 'u' ≠ 'x' := by decide
  have noBrace : (digits ++ following).head? ≠ some '\x7b' := by
    obtain ⟨first, rest, rfl⟩ := List.exists_cons_of_ne_nil numeral.nonempty
    intro isBrace
    obtain rfl := Option.some.inj isBrace
    exact absurd (numeral.worth_lt _ List.mem_cons_self) (by decide)
  rw [readEscape, if_neg noByte, if_pos rfl, if_neg noBrace, taken]

theorem readEscape_braced
    {digits : List Char}
    (numeral : IsNumeral 16 digits)
    (following : List Char) :
    readEscape ('u' :: '\x7b' :: (digits ++ '\x7d' :: following)) =
      (digits.length + 3, numberUnits (valueOf 16 digits)) := by
  have taken := takeWhile_numeral numeral following
  have noByte : 'u' ≠ 'x' := by decide
  rw [readEscape, if_neg noByte, if_pos rfl, if_pos List.head?_cons, List.tail_cons]
  simp only [taken]

/-- A line break after a backslash has no value. -/
theorem readEscape_lineBreak
    {terminator : Char}
    {following : List Char}
    (terminates : terminator ∈ lineTerminators)
    (alone : terminator = '\r' → following.head? ≠ some '\n') :
    readEscape (terminator :: following) = (1, []) := by
  have noPair : ¬ (terminator = '\r' ∧ following.head? = some '\n') := by
    rintro ⟨isReturn, feeds⟩
    exact alone isReturn feeds
  have noMarks : ∀ terminator ∈ lineTerminators,
      terminator ≠ 'x' ∧ terminator ≠ 'u' ∧ ¬ worth terminator < 8 := by
    intro terminator terminates
    simp only [lineTerminators, List.mem_cons, List.not_mem_nil, or_false] at terminates
    obtain rfl | rfl | rfl | rfl := terminates
    all_goals decide
  simp [readEscape, noMarks terminator terminates, noPair, terminates]

/-- An escape is read to its end and has the value that is read. -/
theorem EscapeValue.readEscape_eq
    {body following : List Char}
    {value : List CodeUnit}
    (escape : EscapeValue body following value) :
    readEscape (body ++ following) = (body.length, value) := by
  cases escape with
  | single means => exact readEscape_single means following
  | itself noSingle noDigit noMark noBreak =>
      exact readEscape_itself noSingle noDigit noMark noBreak following
  | decimal noOctal =>
      obtain rfl | rfl := noOctal
      · rfl
      · rfl
  | octal escape value => rw [readEscape_octal escape, value, numberUnits_val]
  | @byte digits following point numeral two value =>
      have taken : (digits ++ following).take 2 = digits := by
        rw [← two, List.take_left]
      simp [readEscape, taken, two, value, numberUnits_val]
  | @unit digits following point numeral four value =>
      rw [List.cons_append, readEscape_unit numeral four, value, numberUnits_val,
        List.length_cons, four]
  | @braced digits following point numeral value =>
      have read := readEscape_braced numeral following
      rw [value, numberUnits_val] at read
      simpa using read
  | lineBreak terminates alone => exact readEscape_lineBreak terminates alone
  | lineBreaks => rfl

/-- The characters behind a backslash begin with one escape only, which has one value. -/
theorem EscapeValue.unique
    {body following body' following' : List Char}
    {value value' : List CodeUnit}
    (first : EscapeValue body following value)
    (second : EscapeValue body' following' value')
    (same : body ++ following = body' ++ following') :
    value = value' ∧ following = following' := by
  have read := first.readEscape_eq
  rw [same, second.readEscape_eq] at read
  obtain ⟨sameLength, sameValue⟩ := Prod.mk.inj read
  exact ⟨sameValue.symm, (List.append_inj same sameLength.symm).2⟩

/-- The characters of a string literal have one value. -/
theorem SourceValue.unique
    {quote : Char}
    {characters : List Char}
    {units units' : List CodeUnit}
    (first : SourceValue quote characters units)
    (second : SourceValue quote characters units') :
    units = units' := by
  induction first generalizing units' with
  | done =>
      cases second with
      | done => rfl
  | @raw character rest units raw more inductionHypothesis =>
      cases second with
      | raw _ moreToo => rw [inductionHypothesis moreToo]
      | escape _ _ => exact absurd raw (by simp [IsRaw])
  | @escape body rest value units escape more inductionHypothesis =>
      generalize whole : '\\' :: (body ++ rest) = characters at second
      cases second with
      | done => cases whole
      | raw raw _ =>
          obtain ⟨rfl, -⟩ := List.cons.inj whole
          exact absurd raw (by simp [IsRaw])
      | escape escapeToo moreToo =>
          obtain ⟨-, same⟩ := List.cons.inj whole
          obtain ⟨rfl, rfl⟩ := escape.unique escapeToo same
          rw [inductionHypothesis moreToo]

end Literal
end ComponentOutline
