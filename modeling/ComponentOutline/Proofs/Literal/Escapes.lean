import ComponentOutline.Effect
import ComponentOutline.Literal.Strings
import ComponentOutline.Proofs.Number.Numeral

/-!
# Escape sequences of the grammar

The grammar says what an escape sequence looks like.  Every escape of the grammar stands
for code points unless it numbers one beyond the last.
-/

namespace ComponentOutline
namespace Literal

open Numeral

/-- The escape sequences of the grammar. -/
inductive IsEscape : List Char → Prop
  | single {character : Char}
      (noNumber : character ≠ 'x' ∧ character ≠ 'u' ∧ isDigitOf 8 character = false) :
      IsEscape ['\\', character]
  | octal {digits : List Char}
      (plain : IsPlain 8 digits)
      (short : digits.length ≤ 3) :
      IsEscape ('\\' :: digits)
  | byte {digits : List Char}
      (plain : IsPlain 16 digits)
      (two : digits.length = 2) :
      IsEscape ('\\' :: 'x' :: digits)
  | unit {digits : List Char}
      (plain : IsPlain 16 digits)
      (four : digits.length = 4) :
      IsEscape ('\\' :: 'u' :: digits)
  | braced {digits : List Char}
      (plain : IsPlain 16 digits) :
      IsEscape ('\\' :: 'u' :: '\x7b' :: (digits ++ ['\x7d']))
  | lineBreak {first second : Char}
      (starts : first = '\r' ∨ first = '?')
      (breaks : second ∈ ['\n', '\u2028', '\u2029']) :
      IsEscape ['\\', first, second]

/-- Whether an escape numbers a code point in braces that is beyond the last one. -/
def isBeyondLast : List Char → Bool
  | _ :: 'u' :: '\x7b' :: rest => 0x110000 ≤ positional 16 (digitsOf 16 rest)
  | _ => false

theorem decodeEscape_ofList (body : List Char) :
    decodeEscape (String.ofList ('\\' :: body)) = escaped body := by
  rw [decodeEscape, String.toList_ofList, List.drop_one, List.tail_cons]

theorem codePointOf_val (point : CodePoint) : codePointOf point.val = .ok point := by
  have bound := point.isLt
  have fits : ¬ ((point.val : Int) < -0x80000000 || 0x80000000 ≤ (point.val : Int)) = true := by
    rw [Bool.or_eq_true, decide_eq_true_eq, decide_eq_true_eq]
    omega
  rw [codePointOf, if_neg fits, dif_pos (by omega)]
  rfl

/-- A number is a code point exactly below the end of the code space. -/
theorem codePointOf_ok_iff (number : Nat) :
    (∃ point, codePointOf number = .ok point) ↔ number < 0x110000 := by
  constructor
  · rintro ⟨point, read⟩
    unfold codePointOf at read
    split at read
    · cases read
    · split at read
      · next inRange => omega
      · cases read
  · intro small
    exact ⟨⟨number, small⟩, codePointOf_val ⟨number, small⟩⟩

/-- The code point of plain digits is there exactly if their value is not beyond the
last one. -/
theorem numberedPoint_ok_iff
    {radix : Radix}
    {base : Nat}
    {digits : List Char}
    (read : readInteger radix (String.ofList digits) =
      .ok (positional base (digitsOf base digits))) :
    (∃ text : Text, (numberedPoint radix digits).map ([·]) = .ok text) ↔
      positional base (digitsOf base digits) < 0x110000 := by
  rw [← codePointOf_ok_iff, numberedPoint, read]
  constructor
  · rintro ⟨text, mapped⟩
    obtain ⟨point, found, -⟩ := Effect.ok_of_except_map mapped
    exact ⟨point, found⟩
  · rintro ⟨point, found⟩
    simp only [found]
    exact ⟨_, rfl⟩

theorem isBrace_of_digit
    {character : Char}
    (digit : isDigitOf 16 character = true) :
    isBrace character = false := by
  have opening : character ≠ '\x7b' := by
    rintro rfl
    cases digit
  have closing : character ≠ '\x7d' := by
    rintro rfl
    cases digit
  simp [isBrace, opening, closing]

/-- Bare digits have no braces to be dropped. -/
theorem dropWhile_isBrace_eq
    {digits : List Char}
    (bare : ∀ character ∈ digits, isBrace character = false)
    (nonempty : digits ≠ [])
    (rest : List Char) :
    (digits ++ rest).dropWhile isBrace = digits ++ rest := by
  cases digits with
  | nil => exact absurd rfl nonempty
  | cons character others =>
      exact List.dropWhile_cons_of_neg (by simp [bare character List.mem_cons_self])

/-- Braces around plain digits are dropped. -/
theorem trimBraces_eq
    {digits front back : List Char}
    (plain : IsPlain 16 digits)
    (opening : ∀ character ∈ front, isBrace character = true)
    (closing : ∀ character ∈ back, isBrace character = true) :
    trimBraces (front ++ (digits ++ back)) = digits := by
  have bare : ∀ character ∈ digits, isBrace character = false := by
    intro character isMember
    exact isBrace_of_digit (plain.digits character isMember)
  have fromLeft : (front ++ (digits ++ back)).dropWhile isBrace = digits ++ back := by
    rw [List.dropWhile_append_of_pos opening, dropWhile_isBrace_eq bare plain.nonempty]
  have fromRight : (digits ++ back).reverse.dropWhile isBrace = digits.reverse := by
    rw [List.reverse_append, List.dropWhile_append_of_pos (by simpa using closing),
      ← List.append_nil digits.reverse, dropWhile_isBrace_eq (by simpa using bare)
        (by simpa using plain.nonempty)]
  rw [trimBraces, fromLeft, fromRight, List.reverse_reverse]

theorem trimBraces_bare
    {digits : List Char}
    (plain : IsPlain 16 digits) :
    trimBraces digits = digits := by
  have noBrace : ∀ character ∈ ([] : List Char), isBrace character = true := nofun
  have trimmed := trimBraces_eq plain noBrace noBrace
  rwa [List.nil_append, List.append_nil] at trimmed

/-- Braces around digits are trimmed away. -/
theorem trimBraces_braced
    {digits : List Char}
    (plain : IsPlain 16 digits) :
    trimBraces ('\x7b' :: (digits ++ ['\x7d'])) = digits := by
  have opening : ∀ character ∈ ['\x7b'], isBrace character = true := by simp [isBrace]
  have closing : ∀ character ∈ ['\x7d'], isBrace character = true := by simp [isBrace]
  exact trimBraces_eq plain opening closing

/-- A line break, a letter of a control and a character without a meaning of its own are
decoded. -/
theorem escaped_single_ok
    {character : Char}
    (noByte : character ≠ 'x')
    (noUnit : character ≠ 'u')
    (noDigit : isDigitOf 8 character = false) :
    ∃ text, escaped [character] = .ok text := by
  rw [isDigitOf_eight] at noDigit
  simp only [escaped]
  split
  · exact ⟨_, rfl⟩
  · split
    · exact ⟨_, rfl⟩
    · simp only [List.all_cons, isOctalDigit, noDigit, Bool.false_and, Bool.false_eq_true,
        if_false]
      exact ⟨_, rfl⟩

/-- Digits of the grammar's length stand for a code point. -/
theorem numberedPoint_ok
    {radix : Radix}
    {base : Nat}
    {digits : List Char}
    (plain : IsPlain base digits)
    (small : base ^ digits.length ≤ 0x110000)
    (read : readInteger radix (String.ofList digits) =
      .ok (positional base (digitsOf base digits))) :
    ∃ text : Text, (numberedPoint radix digits).map ([·]) = .ok text := by
  rw [numberedPoint_ok_iff read]
  exact Nat.lt_of_lt_of_le (positional_lt plain.digits) small

/-- An octal digit breaks no line, and the only one that is the letter of a control is the
zero, which stands for its own number. -/
theorem octal_head
    {character : Char}
    (digit : isDigitOf 8 character = true) :
    isLineBreak character = false ∧ character ≠ 'x' ∧ character ≠ 'u' ∧
      (letterEscape? character = none ∨
        character = '0' ∧ letterEscape? character = some 0) := by
  have bounds := toNat_of_isDigitOf digit
  revert digit
  exact of_ascii
    (fun character => isDigitOf 8 character = true →
      isLineBreak character = false ∧ character ≠ 'x' ∧ character ≠ 'u' ∧
        (letterEscape? character = none ∨
          character = '0' ∧ letterEscape? character = some 0))
    (by decide +kernel) (by omega)

/-- Octal digits are numbered. -/
theorem escaped_octal
    {digits : List Char}
    (plain : IsPlain 8 digits) :
    escaped digits = (numberedPoint .octal digits).map ([·]) := by
  have octal : digits.all isOctalDigit = true := by
    rw [List.all_eq_true]
    intro character isMember
    rw [isOctalDigit, ← isDigitOf_eight]
    exact plain.digits character isMember
  obtain ⟨digit, nonempty⟩ := plain
  cases digits with
  | nil => exact absurd rfl nonempty
  | cons head tail =>
      obtain ⟨noBreak, noByte, noUnit, noLetter | ⟨rfl, isZero⟩⟩ :=
        octal_head (digit head List.mem_cons_self)
      · simp only [escaped, noBreak, noLetter, noByte, noUnit, octal, Bool.false_eq_true,
          if_false, if_true]
      · cases tail with
        | nil => rfl
        | cons next others =>
            simp only [escaped, noBreak, isZero, noByte, noUnit, octal, Bool.false_eq_true,
              if_false, if_true]

/-- What is escaped with a `u` is numbered, with or without braces. -/
theorem escaped_unit (tail : List Char) :
    escaped ('u' :: tail) = (numberedPoint .hexadecimal (trimBraces tail)).map ([·]) := by
  have noBreak : isLineBreak 'u' = false := by decide
  have noLetter : letterEscape? 'u' = none := rfl
  have noByte : 'u' ≠ 'x' := by decide
  simp only [escaped, noBreak, noLetter, noByte, Bool.false_eq_true, if_false, if_true]

/-- Every escape of the grammar is decoded, unless it is beyond the last code point. -/
theorem decodeEscape_ok_iff
    {sequence : String}
    (token : IsEscape sequence.toList) :
    (∃ text, decodeEscape sequence = .ok text) ↔ isBeyondLast sequence.toList = false := by
  unfold decodeEscape
  generalize sequence.toList = characters at token
  cases token with
  | @single character noNumber =>
      obtain ⟨noByte, noUnit, noDigit⟩ := noNumber
      refine iff_of_true (escaped_single_ok noByte noUnit noDigit) ?_
      simp [isBeyondLast]
  | @octal digits plain short =>
      refine iff_of_true ?_ ?_
      · rw [List.drop_one, List.tail_cons, escaped_octal plain]
        exact numberedPoint_ok plain
          (Nat.le_trans (Nat.pow_le_pow_right (by decide) short) (by decide))
          (readInteger_octal plain)
      · unfold isBeyondLast
        split
        · next isUnit =>
            obtain ⟨-, rfl⟩ := List.cons.inj isUnit
            cases plain.digits 'u' List.mem_cons_self
        · rfl
  | @byte digits plain two =>
      refine iff_of_true ?_ ?_
      · exact numberedPoint_ok plain (by rw [two]; decide) (readInteger_hexadecimal plain)
      · simp [isBeyondLast]
  | @unit digits plain four =>
      refine iff_of_true ?_ ?_
      · rw [List.drop_one, List.tail_cons, escaped_unit, trimBraces_bare plain]
        exact numberedPoint_ok plain (by rw [four]; decide) (readInteger_hexadecimal plain)
      · unfold isBeyondLast
        split
        · next rest isBraced =>
            simp only [List.cons.injEq, true_and] at isBraced
            obtain ⟨-, rfl⟩ := isBraced
            cases plain.digits '\x7b' List.mem_cons_self
        · rfl
  | @braced digits plain =>
      have numbered := numberedPoint_ok_iff (readInteger_hexadecimal plain)
      have sameDigits : digitsOf 16 (digits ++ ['\x7d']) = digitsOf 16 digits := by
        rw [digitsOf, List.filterMap_append]
        exact List.append_nil _
      have decoded : escaped ('u' :: '\x7b' :: (digits ++ ['\x7d'])) =
          (numberedPoint .hexadecimal digits).map ([·]) := by
        rw [escaped_unit, trimBraces_braced plain]
      rw [List.drop_one, List.tail_cons, decoded, numbered]
      simp only [isBeyondLast, sameDigits, decide_eq_false_iff_not, Nat.not_le]
  | @lineBreak first second starts breaks =>
      refine iff_of_true ?_ ?_
      · obtain rfl | rfl := starts
        · exact ⟨_, rfl⟩
        · exact ⟨_, rfl⟩
      · obtain rfl | rfl := starts
        · rfl
        · rfl

end Literal
end ComponentOutline
