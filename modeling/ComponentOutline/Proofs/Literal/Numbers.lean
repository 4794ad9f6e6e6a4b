import ComponentOutline.Effect
import ComponentOutline.Literal.Evaluate
import ComponentOutline.Proofs.Number.Numeral
import ComponentOutline.Proofs.Number.Written

/-!
# Numbers of the grammar

The grammar says what a number looks like.  Every number of the grammar is read unless it
is a decimal with more digits than are read at once, or a large integer in decimals that
starts with an idle zero.  Every number that is read can be written as a key, unless it is
an integer with more digits than are written at once.
-/

namespace ComponentOutline
namespace Literal

open Numeral

/-- Text of ASCII is lowered character by character. -/
theorem toList_loweredString
    {characters : List Char}
    (ascii : ∀ character ∈ characters, character.toNat < 128) :
    (loweredString (String.ofList characters)).toList = characters.map Char.toLower := by
  have points : ∀ point ∈ characters.map CodePoint.ofChar, point.val < 128 := by
    intro point isMember
    obtain ⟨character, isCharacter, rfl⟩ := List.mem_map.mp isMember
    exact ascii character isCharacter
  unfold loweredString Text.lowered Text.ofString Text.toDisplay
  rw [String.toList_ofList, String.toList_ofList, Text.loweredAfter_of_ascii points,
    List.map_map, List.map_map]
  apply List.map_congr_left
  intro character isMember
  exact of_ascii
    (fun character =>
      (CodePoint.small (CodePoint.ofChar character)).toChar?.getD '\uFFFD' = character.toLower)
    (by decide +kernel) (ascii character isMember)

/-- Digits of a base with single underscores between them. -/
inductive Separated (base : Nat) : List Char → Prop
  | single {digit : Char}
      (isDigit : isDigitOf base digit = true) :
      Separated base [digit]
  | next {digit : Char} {rest : List Char}
      (isDigit : isDigitOf base digit = true)
      (more : Separated base rest) :
      Separated base (digit :: rest)
  | gap {digit : Char} {rest : List Char}
      (isDigit : isDigitOf base digit = true)
      (more : Separated base rest) :
      Separated base (digit :: '_' :: rest)

/-- The power of ten behind a decimal. -/
inductive IsExponent : List Char → Prop
  | mk {mark : Char} {sign digits : List Char}
      (isMark : mark = 'e' ∨ mark = 'E')
      (isSign : sign ∈ [[], ['+'], ['-']])
      (separated : Separated 10 digits) :
      IsExponent (mark :: (sign ++ digits))

/-- The numbers of the grammar.  Decimal digits may start with zeros, as those of octal
integers of old do, and a trailing letter makes an integer a large one. -/
inductive IsNumber : List Char → Prop
  | decimal {digits : List Char}
      (separated : Separated 10 digits) :
      IsNumber digits
  | marked {mark : Char} {base : Nat} {digits : List Char}
      (marks : (mark, base) ∈ baseMarks)
      (separated : Separated base digits) :
      IsNumber ('0' :: mark :: digits)
  | point {whole fraction power : List Char}
      (before : whole = [] ∨ Separated 10 whole)
      (behind : fraction = [] ∨ Separated 10 fraction)
      (digits : whole ≠ [] ∨ fraction ≠ [])
      (scaled : power = [] ∨ IsExponent power) :
      IsNumber (whole ++ '.' :: (fraction ++ power))
  | scaled {whole power : List Char}
      (before : Separated 10 whole)
      (behind : IsExponent power) :
      IsNumber (whole ++ power)
  | largeDecimal {digits : List Char}
      (separated : Separated 10 digits) :
      IsNumber (digits ++ ['n'])
  | largeMarked {mark : Char} {base : Nat} {digits : List Char}
      (marks : (mark, base) ∈ baseMarks)
      (separated : Separated base digits) :
      IsNumber ('0' :: mark :: (digits ++ ['n']))

/-- Whether a number is not read: a decimal integer with too many digits, or a large one
with too many digits or with a zero in front of others. -/
def isUnreadable (text : String) : Bool :=
  let cleaned := withoutUnderscores text
  if cleaned.getLast? = some 'n' then
    let digits := cleaned.dropLast
    digits.all Char.isDigit &&
      (digitLimit < digits.length || (digits.head? = some '0' && digits.any (· != '0')))
  else cleaned.all Char.isDigit && !isLegacyOctal cleaned && digitLimit < cleaned.length

/-! ## Underscores -/

/-- Characters without underscores. -/
def cleaned (characters : List Char) : List Char :=
  characters.filter (· != '_')

theorem withoutUnderscores_eq (text : String) :
    withoutUnderscores text = cleaned text.toList := rfl

theorem cleaned_cons
    {character : Char}
    (kept : character ≠ '_')
    (rest : List Char) :
    cleaned (character :: rest) = character :: cleaned rest := by
  simp [cleaned, kept]

theorem cleaned_underscore (rest : List Char) : cleaned ('_' :: rest) = cleaned rest := rfl

/-- Separators are dropped on both sides of a cut. -/
theorem cleaned_append (front back : List Char) :
    cleaned (front ++ back) = cleaned front ++ cleaned back :=
  List.filter_append ..

theorem ne_underscore_of_isDigitOf
    {base : Nat}
    {character : Char}
    (digit : isDigitOf base character = true) :
    character ≠ '_' := by
  rintro rfl
  rw [isDigitOf_underscore] at digit
  cases digit

/-- Without underscores the digits are plain. -/
theorem Separated.plain
    {base : Nat}
    {characters : List Char}
    (separated : Separated base characters) :
    IsPlain base (cleaned characters) := by
  induction separated with
  | single isDigit =>
      rw [cleaned_cons (ne_underscore_of_isDigitOf isDigit)]
      refine ⟨?_, List.cons_ne_nil _ _⟩
      exact List.forall_mem_cons.mpr ⟨isDigit, nofun⟩
  | next isDigit more inductionHypothesis =>
      rw [cleaned_cons (ne_underscore_of_isDigitOf isDigit)]
      refine ⟨?_, List.cons_ne_nil _ _⟩
      exact List.forall_mem_cons.mpr ⟨isDigit, inductionHypothesis.digits⟩
  | gap isDigit more inductionHypothesis =>
      rw [cleaned_cons (ne_underscore_of_isDigitOf isDigit), cleaned_underscore]
      refine ⟨?_, List.cons_ne_nil _ _⟩
      exact List.forall_mem_cons.mpr ⟨isDigit, inductionHypothesis.digits⟩

/-- An exponent is a power of ten without its separators. -/
theorem IsExponent.isPower
    {characters : List Char}
    (isExponent : IsExponent characters) :
    IsPower (cleaned characters) := by
  cases isExponent with
  | @mk mark sign digits isMark isSign separated =>
      have markKept : mark ≠ '_' := by
        obtain rfl | rfl := isMark
        · decide
        · decide
      have signKept : cleaned sign = sign := by
        simp only [List.mem_cons, List.not_mem_nil, or_false] at isSign
        obtain rfl | rfl | rfl := isSign
        · rfl
        · rfl
        · rfl
      rw [cleaned_cons markKept, cleaned_append, signKept]
      exact .mk isMark isSign separated.plain

/-! ## Decimals -/

/-- The characters of decimal numbers. -/
def isDecimal (character : Char) : Bool :=
  character.isDigit || ['.', 'e', 'E', '+', '-'].contains character

theorem isDecimal_iff (character : Char) :
    isDecimal character = true ↔
      character.isDigit = true ∨ character = '.' ∨ character = 'e' ∨ character = 'E' ∨
        character = '+' ∨ character = '-' := by
  simp [isDecimal]

theorem toNat_of_isDecimal
    {character : Char}
    (decimal : isDecimal character = true) :
    32 < character.toNat ∧ character.toNat < 127 := by
  rw [isDecimal_iff] at decimal
  obtain isDigit | rfl | rfl | rfl | rfl | rfl := decimal
  · rw [← isDigitOf_ten] at isDigit
    have bounds := toNat_of_isDigitOf isDigit
    omega
  all_goals decide

/-- No part of a decimal literal marks another base. -/
theorem toLower_unmarked
    {character : Char}
    (decimal : isDecimal character = true) :
    character.toLower ≠ 'x' ∧ character.toLower ≠ 'o' ∧ character.toLower ≠ 'b' := by
  have bounds := toNat_of_isDecimal decimal
  revert decimal
  exact of_ascii
    (fun character => isDecimal character = true →
      character.toLower ≠ 'x' ∧ character.toLower ≠ 'o' ∧ character.toLower ≠ 'b')
    (by decide +kernel) (by omega)

theorem toLower_sign
    {character : Char}
    (decimal : isDecimal character = true)
    (lowered : character.toLower = '.' ∨ character.toLower = 'e') :
    ['.', 'e', 'E'].contains character = true := by
  have bounds := toNat_of_isDecimal decimal
  revert lowered
  exact of_ascii
    (fun character => character.toLower = '.' ∨ character.toLower = 'e' →
      ['.', 'e', 'E'].contains character = true)
    (by decide +kernel) (by omega)

/-- Without a letter that marks a base there is no mark. -/
theorem hasMark_eq_false
    {characters : List Char}
    (unmarked : ∀ character ∈ characters,
      character ≠ 'x' ∧ character ≠ 'o' ∧ character ≠ 'b') :
    hasMark characters = false := by
  unfold hasMark
  split
  · next mark rest =>
      obtain ⟨noHexadecimal, noOctal, noBinary⟩ := unmarked mark (by simp)
      simp [noHexadecimal, noOctal, noBinary]
  · rfl

/-- The digits of an octal integer of old are octal. -/
theorem plain_of_isLegacyOctal
    {characters : List Char}
    (octal : isLegacyOctal characters = true) :
    IsPlain 8 characters := by
  unfold isLegacyOctal at octal
  split at octal
  · next digit rest =>
      refine ⟨?_, List.cons_ne_nil _ _⟩
      rw [List.forall_mem_cons]
      refine ⟨by decide, ?_⟩
      intro character isMember
      rw [isDigitOf_eight]
      exact List.all_eq_true.mp octal character isMember
  · cases octal

/-- A number of the characters of decimals is read in base eight, as a decimal with a
point or a power, or as a decimal integer. -/
theorem readNumber_of_isDecimal
    {text : String}
    (decimal : ∀ character ∈ withoutUnderscores text, isDecimal character = true) :
    readNumber text =
      if isLegacyOctal (withoutUnderscores text) then
        readWhole .octal (withoutUnderscores text)
      else if (withoutUnderscores text).any (['.', 'e', 'E'].contains ·) then
        (readDecimal (String.ofList (withoutUnderscores text))).map .float
      else readWhole .decimal (withoutUnderscores text) := by
  have small : (withoutUnderscores text).getLast? ≠ some 'n' := by
    intro large
    cases decimal 'n' (List.mem_of_getLast? large)
  have ascii : ∀ character ∈ withoutUnderscores text, character.toNat < 128 := by
    intro character isMember
    have bounds := toNat_of_isDecimal (decimal character isMember)
    omega
  have lowered := toList_loweredString ascii
  have unmarked : hasMark ((withoutUnderscores text).map Char.toLower) = false := by
    apply hasMark_eq_false
    intro character isMember
    obtain ⟨original, isOriginal, rfl⟩ := List.mem_map.mp isMember
    exact toLower_unmarked (decimal original isOriginal)
  have sameSigns :
      (((withoutUnderscores text).map Char.toLower).contains '.' ||
          ((withoutUnderscores text).map Char.toLower).contains 'e') =
        (withoutUnderscores text).any (['.', 'e', 'E'].contains ·) := by
    rw [Bool.eq_iff_iff, Bool.or_eq_true, List.contains_iff_mem, List.contains_iff_mem,
      List.mem_map, List.mem_map, List.any_eq_true, ← exists_or]
    apply exists_congr
    intro character
    constructor
    · rintro (⟨isMember, isPoint⟩ | ⟨isMember, isPower⟩)
      · exact ⟨isMember, toLower_sign (decimal character isMember) (.inl isPoint)⟩
      · exact ⟨isMember, toLower_sign (decimal character isMember) (.inr isPower)⟩
    · rintro ⟨isMember, isSign⟩
      simp only [List.contains_cons, List.contains_nil, Bool.or_false, Bool.or_eq_true,
        beq_iff_eq] at isSign
      obtain rfl | rfl | rfl := isSign
      · exact .inl ⟨isMember, rfl⟩
      · exact .inr ⟨isMember, rfl⟩
      · exact .inr ⟨isMember, rfl⟩
  unfold readNumber
  simp only [small, lowered, unmarked, sameSigns, Bool.false_eq_true, if_false]

theorem isDecimal_of_plain
    {characters : List Char}
    (plain : IsPlain 10 characters) :
    ∀ character ∈ characters, isDecimal character = true := by
  intro character isMember
  rw [isDecimal_iff]
  exact .inl (plain.isDigit character isMember)

/-- Plain decimal digits do not end in the mark of a large integer. -/
theorem getLast?_ne_of_plain
    {characters : List Char}
    (plain : IsPlain 10 characters) :
    characters.getLast? ≠ some 'n' := by
  intro large
  cases plain.isDigit 'n' (List.mem_of_getLast? large)

/-- Decimal digits are read in base eight if they are octal behind a zero, and in base ten
otherwise. -/
theorem readNumber_of_plain
    {text : String}
    (plain : IsPlain 10 (withoutUnderscores text)) :
    readNumber text =
      if isLegacyOctal (withoutUnderscores text) then
        readWhole .octal (withoutUnderscores text)
      else readWhole .decimal (withoutUnderscores text) := by
  have noSign : (withoutUnderscores text).any (['.', 'e', 'E'].contains ·) = false := by
    rw [List.any_eq_false]
    intro character isMember isSign
    have isDigit := plain.isDigit character isMember
    simp only [List.contains_cons, List.contains_nil, Bool.or_false, Bool.or_eq_true,
      beq_iff_eq] at isSign
    obtain rfl | rfl | rfl := isSign
    all_goals cases isDigit
  rw [readNumber_of_isDecimal (isDecimal_of_plain plain), noSign, if_neg Bool.false_ne_true]

/-- A decimal integer is read unless it has too many digits. -/
theorem readNumber_decimal_iff
    {text : String}
    (plain : IsPlain 10 (withoutUnderscores text)) :
    (∃ number, readNumber text = .ok number) ↔ isUnreadable text = false := by
  have digits : (withoutUnderscores text).all Char.isDigit = true :=
    List.all_eq_true.mpr plain.isDigit
  rw [readNumber_of_plain plain]
  simp only [isUnreadable, getLast?_ne_of_plain plain, digits, Bool.true_and, if_false]
  cases octal : isLegacyOctal (withoutUnderscores text) with
  | true =>
      refine iff_of_true ?_ rfl
      rw [if_pos rfl, readWhole, readInteger_octal (plain_of_isLegacyOctal octal)]
      exact ⟨_, rfl⟩
  | false =>
      rw [if_neg Bool.false_ne_true, readWhole, readInteger_decimal plain, Bool.not_false,
        Bool.true_and, decide_eq_false_iff_not]
      split
      · next long => exact iff_of_false nofun (not_not_intro long)
      · next short => exact iff_of_true ⟨_, rfl⟩ short

/-- A decimal numeral with a point or a power is read if it writes a number, and is then none
of the unreadable ones. -/
theorem readNumber_float_iff
    {text : String}
    {sign : Char}
    (decimal : ∀ character ∈ withoutUnderscores text, isDecimal character = true)
    (isSign : ['.', 'e', 'E'].contains sign = true)
    (signed : sign ∈ withoutUnderscores text)
    (read : ∃ value, readDecimal (String.ofList (withoutUnderscores text)) = .ok value) :
    (∃ number, readNumber text = .ok number) ↔ isUnreadable text = false := by
  obtain ⟨value, read⟩ := read
  have noDigit : sign.isDigit = false ∧ isDigitOf 8 sign = false := by
    simp only [List.contains_cons, List.contains_nil, Bool.or_false, Bool.or_eq_true,
      beq_iff_eq] at isSign
    obtain rfl | rfl | rfl := isSign
    all_goals decide
  have octal : isLegacyOctal (withoutUnderscores text) = false := by
    rw [Bool.eq_false_iff]
    intro octal
    exact (plain_of_isLegacyOctal octal).notMem noDigit.2 signed
  have anySign : (withoutUnderscores text).any (['.', 'e', 'E'].contains ·) = true :=
    List.any_eq_true.mpr ⟨sign, signed, isSign⟩
  have small : (withoutUnderscores text).getLast? ≠ some 'n' := by
    intro large
    cases decimal 'n' (List.mem_of_getLast? large)
  have noInteger : (withoutUnderscores text).all Char.isDigit = false := by
    rw [List.all_eq_false]
    exact ⟨sign, signed, by simp [noDigit.1]⟩
  refine iff_of_true ?_ ?_
  · rw [readNumber_of_isDecimal decimal, octal, anySign, read]
    exact ⟨_, rfl⟩
  · simp [isUnreadable, small, noInteger]

theorem isDecimal_of_isPower
    {characters : List Char}
    (isPower : IsPower characters) :
    ∀ character ∈ characters, isDecimal character = true := by
  cases isPower with
  | @mk mark sign digits isMark isSign plain =>
      have marks : isDecimal mark = true := by
        obtain rfl | rfl := isMark
        · decide
        · decide
      have signs : ∀ character ∈ sign, isDecimal character = true := by
        simp only [List.mem_cons, List.not_mem_nil, or_false] at isSign
        obtain rfl | rfl | rfl := isSign
        · nofun
        · exact List.forall_mem_singleton.mpr rfl
        · exact List.forall_mem_singleton.mpr rfl
      simp only [List.forall_mem_cons, List.forall_mem_append]
      exact ⟨marks, signs, isDecimal_of_plain plain⟩

/-- What is empty or plain consists of digits. -/
theorem isDigit_of_optional
    {characters : List Char}
    (optional : characters = [] ∨ IsPlain 10 characters) :
    ∀ character ∈ characters, character.isDigit = true := by
  obtain rfl | plain := optional
  · nofun
  · exact plain.isDigit

theorem isDecimal_of_optional
    {characters : List Char}
    (optional : characters = [] ∨ IsPlain 10 characters) :
    ∀ character ∈ characters, isDecimal character = true := by
  intro character isMember
  rw [isDecimal_iff]
  exact .inl (isDigit_of_optional optional character isMember)

/-- A decimal starts with a digit, or with what stands behind its digits. -/
theorem head_of_decimal
    {whole tail : List Char}
    (digits : ∀ character ∈ whole, character.isDigit = true)
    (behind : ∀ character ∈ tail.head?, 46 ≤ character.toNat) :
    ∀ character ∈ (whole ++ tail).head?, 46 ≤ character.toNat := by
  cases whole with
  | nil => exact behind
  | cons digit rest =>
      intro character isHead
      obtain rfl : digit = character := by simpa using isHead
      have isDigit := digits digit List.mem_cons_self
      rw [← isDigitOf_ten] at isDigit
      have bounds := toNat_of_isDigitOf isDigit
      omega

/-- A power does not go on with the digits before it. -/
theorem isDigit_head_of_isPower
    {characters : List Char}
    (isPower : IsPower characters) :
    ∀ character ∈ characters.head?, character.isDigit = false := by
  obtain ⟨mark, rest, rfl, isMark⟩ := isPower.head
  intro character isHead
  obtain rfl : mark = character := by simpa using isHead
  obtain rfl | rfl := isMark
  · rfl
  · rfl

/-- A literal with a point is read unless it is one of the unreadable ones. -/
theorem readNumber_point_iff
    {text : String}
    {whole fraction power : List Char}
    (divided : withoutUnderscores text = whole ++ '.' :: (fraction ++ power))
    (before : whole = [] ∨ IsPlain 10 whole)
    (behind : fraction = [] ∨ IsPlain 10 fraction)
    (digits : IsPlain 10 whole ∨ IsPlain 10 fraction)
    (scaled : power = [] ∨ IsPower power) :
    (∃ number, readNumber text = .ok number) ↔ isUnreadable text = false := by
  obtain ⟨powerDecimal, powerStops, powered⟩ :
      (∀ character ∈ power, isDecimal character = true) ∧
        (∀ character ∈ power.head?, character.isDigit = false) ∧
        ∃ value, readPower? power = some value := by
    obtain rfl | isPower := scaled
    · exact ⟨nofun, nofun, 0, rfl⟩
    · exact ⟨isDecimal_of_isPower isPower, isDigit_head_of_isPower isPower,
        isPower.readPower?⟩
  have decimal : ∀ character ∈ withoutUnderscores text, isDecimal character = true := by
    rw [divided]
    simp only [List.forall_mem_append, List.forall_mem_cons]
    exact ⟨isDecimal_of_optional before, by decide, isDecimal_of_optional behind,
      powerDecimal⟩
  have pointHead : ∀ character ∈ ('.' :: (fraction ++ power)).head?, character = '.' := by
    intro character isHead
    simpa using isHead.symm
  have isSign : ['.', 'e', 'E'].contains '.' = true := by decide
  apply readNumber_float_iff decimal isSign
  · rw [divided]
    simp
  · rw [divided] at decimal ⊢
    apply readDecimal_ok
    · intro character isMember
      exact toNat_of_isDecimal (decimal character isMember)
    · apply head_of_decimal (isDigit_of_optional before)
      intro character isHead
      obtain rfl := pointHead character isHead
      decide
    · exact isDigit_of_optional before
    · intro character isHead
      obtain rfl := pointHead character isHead
      rfl
    · exact spanDigits_append (isDigit_of_optional behind) powerStops
    · exact powered
    · exact digits.imp filterMap_digitValue_ne_nil filterMap_digitValue_ne_nil

theorem readNumber_scaled_iff
    {text : String}
    {whole power : List Char}
    (divided : withoutUnderscores text = whole ++ power)
    (plain : IsPlain 10 whole)
    (isPower : IsPower power) :
    (∃ number, readNumber text = .ok number) ↔ isUnreadable text = false := by
  have decimal : ∀ character ∈ withoutUnderscores text, isDecimal character = true := by
    rw [divided]
    simp only [List.forall_mem_append]
    exact ⟨isDecimal_of_plain plain, isDecimal_of_isPower isPower⟩
  have powerStops := isDigit_head_of_isPower isPower
  have powered := isPower.readPower?
  obtain ⟨mark, rest, rfl, isMark⟩ := isPower.head
  have isSign : ['.', 'e', 'E'].contains mark = true := by
    obtain rfl | rfl := isMark
    · decide
    · decide
  have noPoint : splitFraction (mark :: rest) = ([], mark :: rest) := by
    obtain rfl | rfl := isMark
    · rfl
    · rfl
  apply readNumber_float_iff decimal isSign
  · rw [divided]
    simp
  · rw [divided] at decimal ⊢
    apply readDecimal_ok
    · intro character isMember
      exact toNat_of_isDecimal (decimal character isMember)
    · apply head_of_decimal plain.isDigit
      intro character isHead
      obtain rfl : mark = character := by simpa using isHead
      obtain rfl | rfl := isMark
      · decide
      · decide
    · exact plain.isDigit
    · exact powerStops
    · exact noPoint
    · exact powered
    · exact .inl (filterMap_digitValue_ne_nil plain)

/-! ## Integers with a mark, and large integers -/

/-- The mark of a base is a letter, and so is its small form, which marks the same
base. -/
theorem baseMarks_toLower
    {mark : Char}
    {base : Nat}
    (marks : (mark, base) ∈ baseMarks) :
    (mark.toLower, base) ∈ baseMarks ∧ hasMark ['0', mark.toLower] = true ∧
      mark.toNat < 127 ∧ mark ≠ '_' ∧ mark ≠ 'n' ∧ mark.isDigit = false := by
  revert marks
  simp only [baseMarks, List.mem_cons, Prod.mk.injEq, List.not_mem_nil, or_false]
  rintro (⟨rfl, rfl⟩ | ⟨rfl, rfl⟩ | ⟨rfl, rfl⟩ | ⟨rfl, rfl⟩ | ⟨rfl, rfl⟩ | ⟨rfl, rfl⟩)
  all_goals decide

theorem isDigitOf_n
    {mark : Char}
    {base : Nat}
    (marks : (mark, base) ∈ baseMarks) :
    isDigitOf base 'n' = false := by
  revert marks
  simp only [baseMarks, List.mem_cons, Prod.mk.injEq, List.not_mem_nil, or_false]
  rintro (⟨rfl, rfl⟩ | ⟨rfl, rfl⟩ | ⟨rfl, rfl⟩ | ⟨rfl, rfl⟩ | ⟨rfl, rfl⟩ | ⟨rfl, rfl⟩)
  all_goals decide

/-- Digits after the mark of a base do not end in the mark of a large integer. -/
theorem getLast?_ne_of_marked
    {characters : List Char}
    {mark : Char}
    {base : Nat}
    {digits : List Char}
    (written : characters = '0' :: mark :: digits)
    (marks : (mark, base) ∈ baseMarks)
    (plain : IsPlain base digits) :
    characters.getLast? ≠ some 'n' := by
  obtain ⟨-, -, -, -, noLarge, -⟩ := baseMarks_toLower marks
  intro large
  have isMember := List.mem_of_getLast? large
  rw [written, List.mem_cons, List.mem_cons] at isMember
  obtain isZero | rfl | isDigit := isMember
  · cases isZero
  · exact noLarge rfl
  · exact plain.notMem (isDigitOf_n marks) isDigit

/-- Digits behind the mark of their base are read. -/
theorem readNumber_of_marked
    {text : String}
    {mark : Char}
    {base : Nat}
    {digits : List Char}
    (written : withoutUnderscores text = '0' :: mark :: digits)
    (marks : (mark, base) ∈ baseMarks)
    (plain : IsPlain base digits) :
    readNumber text = .ok (.whole (positional base (digitsOf base digits))) := by
  obtain ⟨sameBase, isMark, ascii, -, -, -⟩ := baseMarks_toLower marks
  have lowered : (loweredString (String.ofList (withoutUnderscores text))).toList =
      '0' :: mark.toLower :: digits.map Char.toLower := by
    rw [toList_loweredString, written]
    · rfl
    · rw [written]
      simp only [List.forall_mem_cons]
      refine ⟨by decide, by omega, ?_⟩
      intro character isMember
      have bounds := plain.alphanumeric character isMember
      omega
  have marked : hasMark ('0' :: mark.toLower :: digits.map Char.toLower) = true := isMark
  unfold readNumber
  simp only [getLast?_ne_of_marked written marks plain, lowered, marked, if_false, if_true,
    readWhole, readInteger_marked sameBase plain.toLower, digitsOf_toLower plain.digits]
  rfl

/-- A literal with the mark of a base is read unless it is one of the unreadable ones. -/
theorem readNumber_marked_iff
    {text : String}
    {mark : Char}
    {base : Nat}
    {digits : List Char}
    (written : withoutUnderscores text = '0' :: mark :: digits)
    (marks : (mark, base) ∈ baseMarks)
    (plain : IsPlain base digits) :
    (∃ number, readNumber text = .ok number) ↔ isUnreadable text = false := by
  obtain ⟨-, -, -, -, -, noDigit⟩ := baseMarks_toLower marks
  refine iff_of_true ⟨_, readNumber_of_marked written marks plain⟩ ?_
  unfold isUnreadable
  simp only [if_neg (getLast?_ne_of_marked written marks plain)]
  rw [written]
  simp [noDigit]

/-- A large integer is read as what stands in front of its letter. -/
theorem readNumber_large
    {text : String}
    {front : List Char}
    (written : withoutUnderscores text = front ++ ['n']) :
    readNumber text = readWhole .announced front ∧
      isUnreadable text =
        (front.all Char.isDigit &&
          (digitLimit < front.length || (front.head? = some '0' && front.any (· != '0')))) := by
  have large : (withoutUnderscores text).getLast? = some 'n' := by
    rw [written]
    exact List.getLast?_concat
  have dropped : (withoutUnderscores text).dropLast = front := by
    rw [written]
    exact List.dropLast_concat
  unfold readNumber isUnreadable
  simp only [large, dropped, if_true, and_self]

theorem readNumber_largeMarked_iff
    {text : String}
    {mark : Char}
    {base : Nat}
    {digits : List Char}
    (written : withoutUnderscores text = '0' :: mark :: digits ++ ['n'])
    (marks : (mark, base) ∈ baseMarks)
    (plain : IsPlain base digits) :
    (∃ number, readNumber text = .ok number) ↔ isUnreadable text = false := by
  obtain ⟨-, -, -, -, -, noDigit⟩ := baseMarks_toLower marks
  obtain ⟨read, unreadable⟩ := readNumber_large written
  rw [read, unreadable]
  refine iff_of_true ?_ ?_
  · rw [readWhole, readInteger_marked marks plain]
    exact ⟨_, rfl⟩
  · simp [noDigit]

theorem eq_zero_of_digitOf?
    {character : Char}
    (read : digitOf? 10 character = some 0) :
    character = '0' := by
  have digit : isDigitOf 10 character = true := by
    rw [isDigitOf, read]
    rfl
  have bounds := toNat_of_isDigitOf digit
  revert read
  exact of_ascii (fun character => digitOf? 10 character = some 0 → character = '0')
    (by decide +kernel) (by omega)

/-- Decimal digits are worth nothing exactly if all of them are zeros. -/
theorem positional_zeros_iff
    {characters : List Char}
    (plain : IsPlain 10 characters) :
    positional 10 (digitsOf 10 characters) = 0 ↔ characters.any (· != '0') = false := by
  rw [positional_eq_zero_iff (by decide), List.any_eq_false]
  constructor
  · intro zeros character isMember
    obtain ⟨value, read⟩ := Option.isSome_iff_exists.mp (plain.digits character isMember)
    obtain rfl := zeros value (List.mem_filterMap.mpr ⟨character, isMember, read⟩)
    simp [eq_zero_of_digitOf? read]
  · intro zeros value isValue
    obtain ⟨character, isMember, read⟩ := List.mem_filterMap.mp isValue
    obtain rfl : character = '0' := by simpa using zeros character isMember
    exact (Option.some.inj read).symm

/-- A zero in front of a digit other than zero is not alone. -/
theorem one_lt_length
    {digits : List Char}
    (zero : digits.head? = some '0')
    (other : digits.any (· != '0') = true) :
    1 < digits.length := by
  cases digits with
  | nil => cases zero
  | cons first rest =>
      obtain rfl : first = '0' := by simpa using zero
      cases rest with
      | nil => cases other
      | cons second others => simp

theorem readNumber_largeDecimal_iff
    {text : String}
    {digits : List Char}
    (written : withoutUnderscores text = digits ++ ['n'])
    (plain : IsPlain 10 digits) :
    (∃ number, readNumber text = .ok number) ↔ isUnreadable text = false := by
  obtain ⟨read, unreadable⟩ := readNumber_large written
  have isDigits : digits.all Char.isDigit = true := List.all_eq_true.mpr plain.isDigit
  have idle : (digits.head? = some '0' ∧ 1 < digits.length ∧
      positional 10 (digitsOf 10 digits) ≠ 0) ↔
        (digits.head? = some '0' && digits.any (· != '0')) = true := by
    rw [Bool.and_eq_true, decide_eq_true_eq, ne_eq, positional_zeros_iff plain,
      Bool.not_eq_false]
    constructor
    · rintro ⟨zero, -, other⟩
      exact ⟨zero, other⟩
    · rintro ⟨zero, other⟩
      exact ⟨zero, one_lt_length zero other, other⟩
  rw [read, unreadable, readWhole, readInteger_announced plain, isDigits, Bool.true_and,
    Bool.or_eq_false_iff, decide_eq_false_iff_not]
  split
  · next long => exact iff_of_false nofun fun ⟨short, _⟩ => short long
  · next short =>
      split
      · next isIdle =>
          rw [idle] at isIdle
          refine iff_of_false nofun ?_
          rintro ⟨-, noIdle⟩
          rw [isIdle] at noIdle
          cases noIdle
      · next noIdle =>
          rw [idle, Bool.not_eq_true] at noIdle
          exact iff_of_true ⟨_, rfl⟩ ⟨short, noIdle⟩

/-- Every number of the grammar is read, unless it has too many digits or an idle zero. -/
theorem readNumber_ok_iff
    {text : String}
    (token : IsNumber text.toList) :
    (∃ number, readNumber text = .ok number) ↔ isUnreadable text = false := by
  have written := withoutUnderscores_eq text
  generalize text.toList = characters at token written
  cases token with
  | decimal separated =>
      apply readNumber_decimal_iff
      rw [written]
      exact separated.plain
  | marked marks separated =>
      obtain ⟨-, -, -, kept, -, -⟩ := baseMarks_toLower marks
      rw [cleaned_cons (by decide), cleaned_cons kept] at written
      exact readNumber_marked_iff written marks separated.plain
  | @point whole fraction power before behind digits scaled =>
      have optional : ∀ {digits : List Char}, digits = [] ∨ Separated 10 digits →
          cleaned digits = [] ∨ IsPlain 10 (cleaned digits) := by
        rintro digits (rfl | separated)
        · exact .inl rfl
        · exact .inr separated.plain
      have plainDigits : IsPlain 10 (cleaned whole) ∨ IsPlain 10 (cleaned fraction) := by
        obtain someWhole | someFraction := digits
        · exact .inl (before.resolve_left someWhole).plain
        · exact .inr (behind.resolve_left someFraction).plain
      have plainPower : cleaned power = [] ∨ IsPower (cleaned power) := by
        obtain rfl | isExponent := scaled
        · exact .inl rfl
        · exact .inr isExponent.isPower
      rw [cleaned_append, cleaned_cons (by decide), cleaned_append] at written
      exact readNumber_point_iff written (optional before) (optional behind) plainDigits
        plainPower
  | scaled before behind =>
      rw [cleaned_append] at written
      exact readNumber_scaled_iff written before.plain behind.isPower
  | largeDecimal separated =>
      rw [cleaned_append] at written
      exact readNumber_largeDecimal_iff written separated.plain
  | largeMarked marks separated =>
      obtain ⟨-, -, -, kept, -, -⟩ := baseMarks_toLower marks
      rw [cleaned_cons (by decide), cleaned_cons kept, cleaned_append] at written
      exact readNumber_largeMarked_iff written marks separated.plain

/-! ## Numbers as keys -/

/-- Whether a number is too long for a key: an integer with more digits than are
written. -/
def isOverlong (text : String) : Bool :=
  match readNumber text with
  | .ok (.whole value) => 10 ^ digitLimit ≤ value.natAbs
  | _ => false

/-- A whole number is never read as a fraction. -/
theorem ne_float_of_readWhole
    {radix : Radix}
    {characters : List Char}
    {value : Binary64} :
    readWhole radix characters ≠ .ok (.float value) := by
  intro read
  obtain ⟨whole, -, isFloat⟩ := Effect.ok_of_except_map read
  cases isFloat

/-- A number that is read as a floating-point number is rounded from a decimal. -/
theorem ofDecimal_of_readNumber
    {text : String}
    {value : Binary64}
    (read : readNumber text = .ok (.float value)) :
    ∃ negative digits power, value = Binary64.ofDecimal negative digits power := by
  unfold readNumber at read
  simp only at read
  split at read
  · exact absurd read ne_float_of_readWhole
  · split at read
    · exact absurd read ne_float_of_readWhole
    · split at read
      · exact absurd read ne_float_of_readWhole
      · split at read
        · obtain ⟨decimal, found, isFloat⟩ := Effect.ok_of_except_map read
          cases isFloat
          unfold readDecimal at found
          simp only at found
          split at found
          · split at found
            · cases found
            · exact ⟨_, _, _, (Except.ok.inj found).symm⟩
          · cases found
        · exact absurd read ne_float_of_readWhole

/-- An integer can be written exactly up to the limit of digits. -/
theorem writeInteger_map_ok_iff (value : Int) :
    (∃ key, (writeInteger value).map Text.ofString = .ok key) ↔
      value.natAbs < 10 ^ digitLimit := by
  rw [← writeInteger_ok_iff]
  constructor
  · rintro ⟨key, written⟩
    obtain ⟨numeral, found, -⟩ := Effect.ok_of_except_map written
    exact ⟨numeral, found⟩
  · rintro ⟨numeral, found⟩
    rw [found]
    exact ⟨_, rfl⟩

/-- Every number that is read can be a key, unless it is an overlong integer. -/
theorem numberKey_ok_iff
    {text : String}
    {number : Number}
    (read : readNumber text = .ok number) :
    (∃ key, numberKey number = .ok key) ↔ isOverlong text = false := by
  unfold isOverlong
  rw [read]
  cases number with
  | whole value =>
      simp only [numberKey, writeInteger_map_ok_iff, decide_eq_false_iff_not, Nat.not_le]
  | float value =>
      refine iff_of_true ?_ rfl
      unfold numberKey
      simp only
      cases whole : value.toInt? with
      | none =>
          simp only
          exact ⟨_, rfl⟩
      | some integer =>
          obtain ⟨negative, digits, power, rfl⟩ := ofDecimal_of_readNumber read
          simp only
          exact (writeInteger_map_ok_iff integer).mpr (Binary64.natAbs_of_ofDecimal whole)

end Literal
end ComponentOutline
