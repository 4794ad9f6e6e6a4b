import ComponentOutline.Proofs.Literal.Equations
import ComponentOutline.Proofs.Literal.Numbers
import ComponentOutline.Proofs.Number.Positional

/-!
# Integer literals

An integer literal says its base by a mark, by a leading zero or by neither, and a trailing
letter makes it a large one; separators do not count.  It is read as the positional value of
its digits, as a whole number of whatever size.  A property is stored under the decimal
numeral of that value, so that two ways of writing it give one key, and different values give
different keys.
-/

namespace ComponentOutline
namespace Literal

open Numeral

/-- How an integer literal is written without separators, in which base and with which
digits. -/
inductive IsInteger : List Char → Nat → List Char → Prop
  | marked {mark : Char} {base : Nat} {digits : List Char}
      (marks : (mark, base) ∈ baseMarks)
      (numeral : IsNumeral base digits) :
      IsInteger ('0' :: mark :: digits) base digits
  | decimal {digits : List Char}
      (numeral : IsNumeral 10 digits)
      (leads : digits.head? = some '0' → digits = ['0']) :
      IsInteger digits 10 digits
  /-- A zero and octal digits. -/
  | octal {digits : List Char}
      (numeral : IsNumeral 8 digits) :
      IsInteger ('0' :: digits) 8 ('0' :: digits)
  /-- A zero and decimal digits that are not all octal. -/
  | zeroDecimal {digits : List Char}
      (numeral : IsNumeral 10 digits)
      (beyondOctal : '8' ∈ digits ∨ '9' ∈ digits) :
      IsInteger ('0' :: digits) 10 ('0' :: digits)
  | largeMarked {mark : Char} {base : Nat} {digits : List Char}
      (marks : (mark, base) ∈ baseMarks)
      (numeral : IsNumeral base digits) :
      IsInteger ('0' :: mark :: (digits ++ ['n'])) base digits
  | largeDecimal {digits : List Char}
      (numeral : IsNumeral 10 digits)
      (leads : digits.head? = some '0' → digits = ['0']) :
      IsInteger (digits ++ ['n']) 10 digits

/-- A text writes a number as an integer literal.  Separators may stand anywhere, and decimal
digits are at most as many as are read at once. -/
def WritesInteger (text : String) (value : Nat) : Prop :=
  ∃ base digits, IsInteger (text.toList.filter (· != '_')) base digits ∧
    (base = 10 → digits.length ≤ digitLimit) ∧ valueOf base digits = value

/-! ## Reading -/

theorem base_le_of_baseMarks
    {mark : Char}
    {base : Nat}
    (marks : (mark, base) ∈ baseMarks) :
    base ≤ 16 := by
  have known : ∀ entry ∈ baseMarks, entry.2 ≤ 16 := by decide
  exact known _ marks

/-- A number with a leading zero is octal if all of its digits are. -/
theorem isLegacyOctal_zero_cons
    {digits : List Char}
    (nonempty : digits ≠ []) :
    isLegacyOctal ('0' :: digits) = digits.all (isDigitOf 8) := by
  cases digits with
  | nil => exact absurd rfl nonempty
  | cons digit rest =>
      have sameTest : isDigitOf 8 = fun character => ('0' ≤ character && character ≤ '7') :=
        funext isDigitOf_eight
      rw [sameTest]
      rfl

/-- A decimal without an idle zero is not taken for an octal number. -/
theorem isLegacyOctal_eq_false
    {digits : List Char}
    (leads : digits.head? = some '0' → digits = ['0']) :
    isLegacyOctal digits = false := by
  unfold isLegacyOctal
  split
  · next digit rest => cases leads rfl
  · rfl

/-- A short decimal numeral is read as its positional value. -/
theorem readWhole_decimal
    {digits : List Char}
    (numeral : IsNumeral 10 digits)
    (short : digits.length ≤ digitLimit) :
    readWhole .decimal digits = .ok (.whole (valueOf 10 digits)) := by
  rw [readWhole, readInteger_decimal (numeral.isPlain (by decide)),
    if_neg (Nat.not_lt.mpr short), numeral.positional_eq (by decide)]
  rfl

/-- An integer literal is read as the value of its digits. -/
theorem readNumber_of_writesInteger
    {text : String}
    {value : Nat}
    (writes : WritesInteger text value) :
    readNumber text = .ok (.whole value) := by
  obtain ⟨base, digits, written, short, rfl⟩ := writes
  have bare : withoutUnderscores text = text.toList.filter (· != '_') := rfl
  generalize text.toList.filter (· != '_') = characters at written bare
  cases written with
  | marked marks numeral =>
      have known := base_le_of_baseMarks marks
      rw [readNumber_of_marked bare marks (numeral.isPlain known), numeral.positional_eq known]
  | decimal numeral leads =>
      have plain : IsPlain 10 (withoutUnderscores text) := by
        rw [bare]
        exact numeral.isPlain (by decide)
      rw [readNumber_of_plain plain, bare, isLegacyOctal_eq_false leads,
        if_neg Bool.false_ne_true, readWhole_decimal numeral (short rfl)]
  | @octal digits numeral =>
      have zeroNumeral := numeral.zero_cons (by decide)
      have plain : IsPlain 10 (withoutUnderscores text) := by
        rw [bare]
        exact (zeroNumeral.mono (by decide)).isPlain (by decide)
      have isOctal : isLegacyOctal ('0' :: digits) = true := by
        rw [isLegacyOctal_zero_cons numeral.nonempty, List.all_eq_true]
        exact (numeral.isPlain (by decide)).digits
      rw [readNumber_of_plain plain, bare, isOctal, if_pos rfl, readWhole,
        readInteger_octal (zeroNumeral.isPlain (by decide)),
        zeroNumeral.positional_eq (by decide)]
      rfl
  | @zeroDecimal digits numeral beyondOctal =>
      have zeroNumeral := numeral.zero_cons (by decide)
      have plain : IsPlain 10 (withoutUnderscores text) := by
        rw [bare]
        exact zeroNumeral.isPlain (by decide)
      have notOctal : isLegacyOctal ('0' :: digits) = false := by
        rw [isLegacyOctal_zero_cons numeral.nonempty, List.all_eq_false]
        obtain isEight | isNine := beyondOctal
        · exact ⟨'8', isEight, by decide⟩
        · exact ⟨'9', isNine, by decide⟩
      rw [readNumber_of_plain plain, bare, notOctal, if_neg Bool.false_ne_true,
        readWhole_decimal zeroNumeral (short rfl)]
  | @largeMarked mark base digits marks numeral =>
      have known := base_le_of_baseMarks marks
      have large : withoutUnderscores text = ('0' :: mark :: digits) ++ ['n'] := bare
      rw [(readNumber_large large).1, readWhole,
        readInteger_marked marks (numeral.isPlain known), numeral.positional_eq known]
      rfl
  | @largeDecimal digits numeral leads =>
      have noIdleZero : ¬ (digits.head? = some '0' ∧ 1 < digits.length ∧
          positional 10 (digitsOf 10 digits) ≠ 0) := by
        rintro ⟨zero, long, -⟩
        rw [leads zero] at long
        exact absurd long (by decide)
      rw [(readNumber_large bare).1, readWhole,
        readInteger_announced (numeral.isPlain (by decide)),
        if_neg (Nat.not_lt.mpr (short rfl)), if_neg noIdleZero,
        numeral.positional_eq (by decide)]
      rfl

/-! ## Keys -/

/-- A key writes a number as an integer literal, and the number has no more digits than are
written at once. -/
structure IsIntegerKey (key : Node) (value : Nat) : Prop where
  kind : key.kind = "number"
  writes : ∃ text, key.text = .ok text ∧ WritesInteger text value
  short : value < 10 ^ digitLimit

/-- A number that is not too long is written as its decimal numeral. -/
theorem writeInteger_natCast
    {value : Nat}
    (short : value < 10 ^ digitLimit) :
    writeInteger value = .ok (toString value) := by
  obtain ⟨numeral, written⟩ := (writeInteger_ok_iff value).mpr short
  rw [written]
  unfold writeInteger at written
  simp only at written
  split at written
  · cases written
  · have nonnegative : ¬ (value : Int) < 0 := by omega
    rw [if_neg nonnegative, Int.natAbs_natCast] at written
    exact written.symm

/-- An integer key is stored under the decimal numeral of its value. -/
theorem IsIntegerKey.propertyKey_eq
    {key : Node}
    {value : Nat}
    (isKey : IsIntegerKey key value) :
    propertyKey key = .ok (Text.ofString (toString value)) := by
  obtain ⟨text, read, writes⟩ := isKey.writes
  rw [propertyKey_of_number isKey.kind (Node.readText_eq_ok_iff.mpr read),
    readNumber_of_writesInteger writes]
  change ((writeInteger value).map Text.ofString).mapError Failure.conversion = _
  rw [writeInteger_natCast isKey.short]
  rfl

/-- Different numbers have different numerals. -/
theorem ofString_toString_inj {first second : Nat} :
    Text.ofString (toString first) = Text.ofString (toString second) ↔ first = second := by
  constructor
  · intro sameText
    have sameString := congrArg Text.toString? sameText
    rw [Text.toString?_ofString, Text.toString?_ofString] at sameString
    have sameNumeral := Option.some.inj sameString
    rw [Nat.toString_eq_ofList_toDigits, Nat.toString_eq_ofList_toDigits,
      String.ofList_inj] at sameNumeral
    have sameNumber := congrArg (Nat.ofDigitChars 10 · 0) sameNumeral
    simpa only [Nat.ofDigitChars_ten_toDigits] using sameNumber
  · rintro rfl
    rfl

/-- Integer literals are read as whole numbers with the value of their digits, and as keys
they are told apart by their values alone. -/
theorem integers_keep_their_value :
    (∀ text value, WritesInteger text value → readNumber text = .ok (.whole value)) ∧
      ∀ (first second : Node) (left right : Nat),
        IsIntegerKey first left → IsIntegerKey second right →
          propertyKey first = .ok (Text.ofString (toString left)) ∧
            propertyKey second = .ok (Text.ofString (toString right)) ∧
            (propertyKey first = propertyKey second ↔ left = right) := by
  refine ⟨fun _ _ => readNumber_of_writesInteger, ?_⟩
  intro first second left right isFirst isSecond
  rw [isFirst.propertyKey_eq, isSecond.propertyKey_eq]
  refine ⟨rfl, rfl, ?_⟩
  rw [Except.ok.injEq, ofString_toString_inj]

/-- A property key that is a number. -/
def integerKey (text : String) : Node :=
  .ofText "number" (some "key") text []

theorem writesInteger_hexadecimal : WritesInteger "0X1_fE" 510 := by
  refine ⟨16, ['1', 'f', 'E'], ?_, nofun, by decide⟩
  exact .marked (by decide : ('X', 16) ∈ baseMarks) (by decide)

theorem writesInteger_octal : WritesInteger "07_76" 510 := by
  refine ⟨8, ['0', '7', '7', '6'], ?_, nofun, by decide⟩
  exact .octal (by decide)

/-- Two written forms of one number are the same key. -/
theorem integers_keep_their_value_sampleKeys :
    readNumber "0X1_fE" = .ok (.whole 510) ∧
      propertyKey (integerKey "0X1_fE") = .ok (Text.ofString "510") ∧
      propertyKey (integerKey "0X1_fE") = propertyKey (integerKey "07_76") := by
  have short : 510 < 10 ^ digitLimit :=
    Nat.lt_of_lt_of_le (by decide : 510 < 10 ^ 3) (Nat.pow_le_pow_right (by decide) (by decide))
  obtain ⟨reads, keys⟩ := integers_keep_their_value
  obtain ⟨stored, -, sameKey⟩ := keys (integerKey "0X1_fE") (integerKey "07_76") 510 510
    ⟨rfl, ⟨"0X1_fE", rfl, writesInteger_hexadecimal⟩, short⟩
    ⟨rfl, ⟨"07_76", rfl, writesInteger_octal⟩, short⟩
  exact ⟨reads "0X1_fE" 510 writesInteger_hexadecimal, stored, sameKey.mpr rfl⟩

end Literal
end ComponentOutline
