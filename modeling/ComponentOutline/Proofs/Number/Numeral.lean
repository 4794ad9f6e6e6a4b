import ComponentOutline.Number.Numeral
import Mathlib.Data.List.Induction
import Mathlib.Data.Nat.Digits.Defs

/-!
# Numerals that are read

A numeral of plain digits is read as their positional value.  Only two things stand in
the way: more decimal digits than are read at once, and a leading zero where the base has
to be announced.  A decimal numeral of plain digits with a point or a power is always read.
-/

namespace ComponentOutline
namespace Numeral

/-- Whether a character is a digit of a base. -/
def isDigitOf (base : Nat) (character : Char) : Bool :=
  (digitOf? base character).isSome

/-- The digits that characters stand for. -/
def digitsOf (base : Nat) (characters : List Char) : List Nat :=
  characters.filterMap (digitOf? base)

/-! ## Characters -/

theorem isDigitOf_underscore (base : Nat) : isDigitOf base '_' = false := rfl

section

variable {character : Char}

theorem bounds_of_isDigit (isDigit : character.isDigit = true) :
    48 ≤ character.toNat ∧ character.toNat ≤ 57 := by
  have range : (decide (character.val ≥ '0'.val) && decide (character.val ≤ '9'.val)) = true :=
    isDigit
  simpa [UInt32.le_iff_toNat_le] using range

theorem bounds_of_isLower (isLower : character.isLower = true) :
    97 ≤ character.toNat ∧ character.toNat ≤ 122 := by
  have range : (decide (character.val ≥ 'a'.val) && decide (character.val ≤ 'z'.val)) = true :=
    isLower
  simpa [UInt32.le_iff_toNat_le] using range

theorem bounds_of_isUpper (isUpper : character.isUpper = true) :
    65 ≤ character.toNat ∧ character.toNat ≤ 90 := by
  have range : decide (character.val ≥ 'A'.val ∧ character.val ≤ 'Z'.val) = true := isUpper
  simpa [UInt32.le_iff_toNat_le] using range

end

/-- A digit of any base is a digit or a letter. -/
theorem alphanumeric_of_isDigitOf
    {base : Nat}
    {character : Char}
    (digit : isDigitOf base character = true) :
    character.isDigit = true ∨ character.isLower = true ∨ character.isUpper = true := by
  unfold isDigitOf digitOf? digitValue at digit
  split at digit
  · next isDigit => exact .inl isDigit
  · split at digit
    · next isLower => exact .inr (.inl isLower)
    · split at digit
      · next isUpper => exact .inr (.inr isUpper)
      · cases digit

/-- The number of a digit of any base is that of a digit or a letter of ASCII. -/
theorem toNat_of_isDigitOf
    {base : Nat}
    {character : Char}
    (digit : isDigitOf base character = true) :
    48 ≤ character.toNat ∧ character.toNat ≤ 122 := by
  obtain isDigit | isLower | isUpper := alphanumeric_of_isDigitOf digit
  · have bounds := bounds_of_isDigit isDigit
    omega
  · have bounds := bounds_of_isLower isLower
    omega
  · have bounds := bounds_of_isUpper isUpper
    omega

/-- The decimal digits are the digits of base ten. -/
theorem isDigitOf_ten (character : Char) : isDigitOf 10 character = character.isDigit := by
  cases isDigit : character.isDigit with
  | true =>
      have bounds := bounds_of_isDigit isDigit
      have small : character.toNat - 48 < 10 := by omega
      simp [isDigitOf, digitOf?, digitValue, isDigit, Option.filter, small]
  | false =>
      cases isLower : character.isLower with
      | true =>
          have bounds := bounds_of_isLower isLower
          have large : ¬ character.toNat - 87 < 10 := by omega
          simp [isDigitOf, digitOf?, digitValue, isDigit, isLower, Option.filter, large]
      | false =>
          cases isUpper : character.isUpper with
          | true =>
              have bounds := bounds_of_isUpper isUpper
              have large : ¬ character.toNat - 55 < 10 := by omega
              simp [isDigitOf, digitOf?, digitValue, isDigit, isLower, isUpper,
                Option.filter, large]
          | false =>
              simp [isDigitOf, digitOf?, digitValue, isDigit, isLower, isUpper]

/-- What holds of the characters of ASCII by their numbers holds of them. -/
theorem of_ascii
    (holds : Char → Prop)
    (numbered : ∀ number : Fin 128, holds (Char.ofNat number))
    {character : Char}
    (ascii : character.toNat < 128) :
    holds character := by
  have here := numbered ⟨character.toNat, ascii⟩
  rwa [Char.ofNat_toNat] at here

theorem isDigitOf_eight (character : Char) :
    isDigitOf 8 character = ('0' ≤ character && character ≤ '7') := by
  by_cases ascii : character.toNat < 128
  · exact of_ascii
      (fun character => isDigitOf 8 character = ('0' ≤ character && character ≤ '7'))
      (by decide +kernel) ascii
  · have noDigit : isDigitOf 8 character = false := by
      rw [Bool.eq_false_iff]
      intro digit
      have bounds := toNat_of_isDigitOf digit
      omega
    have tooLarge : ¬ character ≤ '7' := by
      rw [Char.le_def, UInt32.le_iff_toNat_le]
      change ¬ character.toNat ≤ 55
      omega
    simp [noDigit, tooLarge]

/-- The case of a digit does not matter. -/
theorem digitOf?_toLower
    {base : Nat}
    {character : Char}
    (digit : isDigitOf base character = true) :
    digitOf? base character.toLower = digitOf? base character := by
  have bounds := toNat_of_isDigitOf digit
  have same : digitValue character.toLower = digitValue character :=
    of_ascii (fun character => digitValue character.toLower = digitValue character)
      (by decide +kernel) (by omega)
  rw [digitOf?, digitOf?, same]

theorem isBlank_eq_false
    {character : Char}
    (large : 32 < character.toNat) :
    isBlank character = false := by
  have noBlank : character ≠ ' ' := by
    rintro rfl
    exact absurd large (by decide)
  simp only [isBlank, noBlank, decide_false, Bool.false_or, Bool.and_eq_false_iff,
    decide_eq_false_iff_not]
  omega

/-- Characters of ASCII are their own numeral forms. -/
theorem map_numeralForm_eq
    {characters : List Char}
    (ascii : ∀ character ∈ characters, character.toNat < 127) :
    characters.map numeralForm = characters := by
  have same : characters.map numeralForm = characters.map id := by
    apply List.map_congr_left
    intro character isMember
    rw [numeralForm, if_pos (ascii character isMember)]
    rfl
  rw [same, List.map_id]

theorem dropWhile_isBlank_eq
    {characters : List Char}
    (noBlank : ∀ character ∈ characters, isBlank character = false) :
    characters.dropWhile isBlank = characters := by
  cases characters with
  | nil => rfl
  | cons character rest =>
      rw [List.dropWhile_cons_of_neg (by simp [noBlank character List.mem_cons_self])]

/-! ## Integers -/

/-- Plain digits are scanned to their end. -/
theorem scanDigits_eq
    {base : Nat}
    {characters : List Char}
    (digits : ∀ character ∈ characters, isDigitOf base character = true) :
    scanDigits base true characters = some (digitsOf base characters, []) := by
  induction characters with
  | nil => rfl
  | cons character rest inductionHypothesis =>
      obtain ⟨digit, others⟩ := List.forall_mem_cons.mp digits
      have noUnderscore : character ≠ '_' := by
        rintro rfl
        rw [isDigitOf_underscore] at digit
        cases digit
      obtain ⟨value, read⟩ := Option.isSome_iff_exists.mp digit
      have listed : digitsOf base (character :: rest) = value :: digitsOf base rest :=
        List.filterMap_cons_some read
      rw [scanDigits, if_neg noUnderscore, read, inductionHypothesis others, listed]
      rfl

/-- Digits without separators are scanned to their end. -/
theorem scanDigits_start_eq
    {base : Nat}
    {characters : List Char}
    (digits : ∀ character ∈ characters, isDigitOf base character = true)
    (nonempty : characters ≠ []) :
    scanDigits base false characters = some (digitsOf base characters, []) := by
  cases characters with
  | nil => exact absurd rfl nonempty
  | cons character rest =>
      rw [← scanDigits_eq digits, scanDigits, scanDigits]
      obtain ⟨digit, -⟩ := List.forall_mem_cons.mp digits
      have noUnderscore : character ≠ '_' := by
        rintro rfl
        rw [isDigitOf_underscore] at digit
        cases digit
      obtain ⟨value, read⟩ := Option.isSome_iff_exists.mp digit
      rw [if_neg noUnderscore, if_neg noUnderscore, read]

/-- Small letters are worth what capitals are. -/
theorem digitsOf_toLower
    {base : Nat}
    {characters : List Char}
    (digits : ∀ character ∈ characters, isDigitOf base character = true) :
    digitsOf base (characters.map Char.toLower) = digitsOf base characters := by
  induction characters with
  | nil => rfl
  | cons character rest inductionHypothesis =>
      obtain ⟨digit, others⟩ := List.forall_mem_cons.mp digits
      obtain ⟨value, read⟩ := Option.isSome_iff_exists.mp digit
      have readLower := (digitOf?_toLower digit).trans read
      rw [List.map_cons, digitsOf, digitsOf, List.filterMap_cons_some readLower,
        List.filterMap_cons_some read]
      exact congrArg _ (inductionHypothesis others)

/-- There are as many digits as characters. -/
theorem length_digitsOf
    {base : Nat}
    {characters : List Char}
    (digits : ∀ character ∈ characters, isDigitOf base character = true) :
    (digitsOf base characters).length = characters.length := by
  induction characters with
  | nil => rfl
  | cons character rest inductionHypothesis =>
      obtain ⟨digit, others⟩ := List.forall_mem_cons.mp digits
      obtain ⟨value, read⟩ := Option.isSome_iff_exists.mp digit
      rw [digitsOf, List.filterMap_cons_some read, List.length_cons, List.length_cons]
      exact congrArg _ (inductionHypothesis others)

/-- The value of digits is smaller than the power of the base with their number. -/
theorem positional_lt
    {base : Nat}
    {characters : List Char}
    (digits : ∀ character ∈ characters, isDigitOf base character = true) :
    positional base (digitsOf base characters) < base ^ characters.length := by
  -- the value grows from the left, so that the digits are taken away from the right
  induction characters using List.reverseRecOn with
  | nil => exact Nat.one_pos
  | append_singleton front last inductionHypothesis =>
      rw [List.forall_mem_append] at digits
      obtain ⟨value, read⟩ := Option.isSome_iff_exists.mp (digits.2 last (by simp))
      have small : value < base := by
        have kept := (Option.filter_eq_some_iff.mp read).2
        simpa using kept
      have before := inductionHypothesis digits.1
      have listed : digitsOf base (front ++ [last]) = digitsOf base front ++ [value] := by
        rw [digitsOf, List.filterMap_append, List.filterMap_cons_some read]
        rfl
      rw [listed, positional, List.foldl_append, List.length_append]
      change positional base (digitsOf base front) * base + value < base ^ (front.length + 1)
      rw [Nat.pow_succ]
      calc
        _ < positional base (digitsOf base front) * base + base := Nat.add_lt_add_left small _
        _ = (positional base (digitsOf base front) + 1) * base := by
          rw [Nat.add_mul, Nat.one_mul]
        _ ≤ base ^ front.length * base := Nat.mul_le_mul_right _ before

/-- Digits are worth nothing exactly if all of them are. -/
theorem positional_eq_zero_iff
    {base : Nat}
    (positive : 0 < base)
    (digits : List Nat) :
    positional base digits = 0 ↔ ∀ digit ∈ digits, digit = 0 := by
  induction digits using List.reverseRecOn with
  | nil => simp [positional]
  | append_singleton front last inductionHypothesis =>
      rw [positional, List.foldl_append, List.forall_mem_append, ← inductionHypothesis]
      change positional base front * base + last = 0 ↔ _
      rw [Nat.add_eq_zero_iff, Nat.mul_eq_zero]
      simp [Nat.pos_iff_ne_zero.mp positive]

/-- What starts with a digit, a letter or a point has no sign. -/
theorem splitSign_eq
    {characters : List Char}
    (unsigned : ∀ character ∈ characters.head?, 46 ≤ character.toNat) :
    splitSign characters = (false, characters) := by
  unfold splitSign
  split
  · exact absurd (unsigned '-' rfl) (by decide)
  · exact absurd (unsigned '+' rfl) (by decide)
  · rfl

/-- A numeral of digits, behind whatever mark of its base, is read as their value, unless
it has too many decimal digits or should be zero and is not. -/
theorem readInteger_eq
    {radix : Radix}
    {characters : List Char}
    {body : Body}
    (marked : splitMark radix characters = body)
    (alphanumeric : ∀ character ∈ characters,
      48 ≤ character.toNat ∧ character.toNat ≤ 122)
    (digits : ∀ character ∈ body.digits, isDigitOf body.base character = true)
    (nonempty : body.digits ≠ []) :
    readInteger radix (String.ofList characters) =
      if body.base = 10 && digitLimit < body.digits.length then
        .error (.tooManyDigits body.digits.length)
      else if body.onlyZero && positional body.base (digitsOf body.base body.digits) ≠ 0 then
        .error (.notInteger radix.label (String.ofList characters))
      else .ok (positional body.base (digitsOf body.base body.digits)) := by
  have unsigned : splitSign characters = (false, characters) := by
    apply splitSign_eq
    intro character isHead
    have bounds := alphanumeric character (List.mem_of_mem_head? isHead)
    omega
  have plain : ((String.ofList characters).toList.map numeralForm).dropWhile isBlank =
      characters := by
    rw [String.toList_ofList, map_numeralForm_eq, dropWhile_isBlank_eq]
    · intro character isMember
      have bounds := alphanumeric character isMember
      exact isBlank_eq_false (by omega)
    · intro character isMember
      have bounds := alphanumeric character isMember
      omega
  unfold readInteger
  simp only [plain, unsigned, marked, scanDigits_start_eq digits nonempty,
    length_digitsOf digits, List.all_nil, Bool.not_true, Bool.false_or, Bool.false_eq_true,
    if_false]

/-- A list of digits of a base that is not empty. -/
structure IsPlain (base : Nat) (characters : List Char) : Prop where
  digits : ∀ character ∈ characters, isDigitOf base character = true
  nonempty : characters ≠ []

/-- Plain digits lie between the zero and the small z. -/
theorem IsPlain.alphanumeric
    {base : Nat}
    {characters : List Char}
    (plain : IsPlain base characters) :
    ∀ character ∈ characters, 48 ≤ character.toNat ∧ character.toNat ≤ 122 := by
  intro character isMember
  exact toNat_of_isDigitOf (plain.digits character isMember)

/-- What is no digit does not occur among plain digits. -/
theorem IsPlain.notMem
    {base : Nat}
    {characters : List Char}
    (plain : IsPlain base characters)
    {character : Char}
    (noDigit : isDigitOf base character = false) :
    character ∉ characters := by
  intro isMember
  rw [plain.digits character isMember] at noDigit
  cases noDigit

theorem IsPlain.toLower
    {base : Nat}
    {characters : List Char}
    (plain : IsPlain base characters) :
    IsPlain base (characters.map Char.toLower) := by
  refine ⟨?_, ?_⟩
  · intro lowered isMember
    obtain ⟨character, isCharacter, rfl⟩ := List.mem_map.mp isMember
    rw [isDigitOf, digitOf?_toLower (plain.digits character isCharacter)]
    exact plain.digits character isCharacter
  · simpa using plain.nonempty

/-! Where no mark stands, nothing is split off. -/

theorem splitMark_decimal (characters : List Char) :
    splitMark .decimal characters = ⟨10, false, characters⟩ := by
  unfold splitMark
  split
  all_goals first | rfl | contradiction

/-- Without a mark, digits are read in the base that was asked for. -/
theorem splitMark_octal
    {characters : List Char}
    (noMark : 'o' ∉ characters)
    (noCapital : 'O' ∉ characters) :
    splitMark .octal characters = ⟨8, false, characters⟩ := by
  unfold splitMark
  split
  · contradiction
  · next mark rest _ =>
      have unmarked : mark ≠ 'o' ∧ mark ≠ 'O' := by
        refine ⟨?_, ?_⟩
        · rintro rfl
          simp at noMark
        · rintro rfl
          simp at noCapital
      simp [unmarked]
  all_goals first | rfl | contradiction

theorem splitMark_hexadecimal
    {characters : List Char}
    (noMark : 'x' ∉ characters)
    (noCapital : 'X' ∉ characters) :
    splitMark .hexadecimal characters = ⟨16, false, characters⟩ := by
  unfold splitMark
  split
  · contradiction
  · contradiction
  · next mark rest _ =>
      have unmarked : mark ≠ 'x' ∧ mark ≠ 'X' := by
        refine ⟨?_, ?_⟩
        · rintro rfl
          simp at noMark
        · rintro rfl
          simp at noCapital
      simp [unmarked]
  all_goals first | rfl | contradiction

/-- Decimal digits announce no base; they have to be zero if they start with a zero and
go on. -/
theorem splitMark_announced
    {characters : List Char}
    (plain : IsPlain 10 characters) :
    splitMark .announced characters =
      ⟨10, characters.head? = some '0' && 1 < characters.length, characters⟩ := by
  unfold splitMark
  split
  · next mark rest _ =>
      have isDigit : isDigitOf 10 mark = true := plain.digits mark (by simp)
      have unmarked : ∀ other : Char, isDigitOf 10 other = false → mark ≠ other := by
        rintro other noDigit rfl
        rw [isDigit] at noDigit
        cases noDigit
      simp [unmarked 'x' rfl, unmarked 'X' rfl, unmarked 'o' rfl, unmarked 'O' rfl,
        unmarked 'b' rfl, unmarked 'B' rfl]
  · contradiction
  · contradiction
  · contradiction
  · contradiction
  · next remaining _ _ _ _ noPair _ _ =>
      cases remaining with
      | nil => rfl
      | cons first rest =>
          cases rest with
          | nil => simp
          | cons second others =>
              have notZero : first ≠ '0' := by
                rintro rfl
                exact noPair second others rfl rfl
              simp [notZero]

/-! Each radix reads plain digits of its base. -/

/-- Plain decimal digits have their positional value, up to the limit of digits. -/
theorem readInteger_decimal
    {characters : List Char}
    (plain : IsPlain 10 characters) :
    readInteger .decimal (String.ofList characters) =
      if digitLimit < characters.length then .error (.tooManyDigits characters.length)
      else .ok (positional 10 (digitsOf 10 characters)) := by
  rw [readInteger_eq (splitMark_decimal characters) plain.alphanumeric plain.digits
    plain.nonempty]
  simp

/-- Plain octal digits have their positional value, without a limit. -/
theorem readInteger_octal
    {characters : List Char}
    (plain : IsPlain 8 characters) :
    readInteger .octal (String.ofList characters) =
      .ok (positional 8 (digitsOf 8 characters)) := by
  rw [readInteger_eq (splitMark_octal (plain.notMem rfl) (plain.notMem rfl))
    plain.alphanumeric plain.digits plain.nonempty]
  simp

theorem readInteger_hexadecimal
    {characters : List Char}
    (plain : IsPlain 16 characters) :
    readInteger .hexadecimal (String.ofList characters) =
      .ok (positional 16 (digitsOf 16 characters)) := by
  rw [readInteger_eq (splitMark_hexadecimal (plain.notMem rfl) (plain.notMem rfl))
    plain.alphanumeric plain.digits plain.nonempty]
  simp

/-- A leading zero is refused where the mark may announce a base. -/
theorem readInteger_announced
    {characters : List Char}
    (plain : IsPlain 10 characters) :
    readInteger .announced (String.ofList characters) =
      if digitLimit < characters.length then .error (.tooManyDigits characters.length)
      else if characters.head? = some '0' ∧ 1 < characters.length ∧
          positional 10 (digitsOf 10 characters) ≠ 0 then
        .error (.notInteger 0 (String.ofList characters))
      else .ok (positional 10 (digitsOf 10 characters)) := by
  rw [readInteger_eq (splitMark_announced plain) plain.alphanumeric plain.digits
    plain.nonempty]
  simp [Radix.label, and_assoc]

/-- The marks of bases. -/
def baseMarks : List (Char × Nat) :=
  [('x', 16), ('X', 16), ('o', 8), ('O', 8), ('b', 2), ('B', 2)]

theorem dropUnderscore_eq
    {base : Nat}
    {characters : List Char}
    (plain : IsPlain base characters) :
    dropUnderscore characters = characters := by
  unfold dropUnderscore
  split
  · next rest =>
      exact absurd List.mem_cons_self (plain.notMem (isDigitOf_underscore base))
  · rfl

/-- Digits behind the mark of their base are read. -/
theorem readInteger_marked
    {mark : Char}
    {base : Nat}
    {characters : List Char}
    (marks : (mark, base) ∈ baseMarks)
    (plain : IsPlain base characters) :
    readInteger .announced (String.ofList ('0' :: mark :: characters)) =
      .ok (positional base (digitsOf base characters)) := by
  have bare := dropUnderscore_eq plain
  obtain ⟨marked, notTen, visible⟩ :
      splitMark .announced ('0' :: mark :: characters) = ⟨base, false, characters⟩ ∧
        base ≠ 10 ∧ 48 ≤ mark.toNat ∧ mark.toNat ≤ 122 := by
    simp only [baseMarks, List.mem_cons, Prod.mk.injEq, List.not_mem_nil, or_false] at marks
    obtain ⟨rfl, rfl⟩ | ⟨rfl, rfl⟩ | ⟨rfl, rfl⟩ | ⟨rfl, rfl⟩ | ⟨rfl, rfl⟩ | ⟨rfl, rfl⟩ := marks
    all_goals
      refine ⟨?_, by decide, by decide⟩
      simp [splitMark, bare]
  have alphanumeric : ∀ character ∈ '0' :: mark :: characters,
      48 ≤ character.toNat ∧ character.toNat ≤ 122 := by
    simp only [List.forall_mem_cons]
    exact ⟨by decide, visible, plain.alphanumeric⟩
  rw [readInteger_eq marked alphanumeric plain.digits plain.nonempty]
  simp [notTen]

/-! ## Decimals -/

theorem IsPlain.isDigit
    {characters : List Char}
    (plain : IsPlain 10 characters) :
    ∀ character ∈ characters, character.isDigit = true := by
  intro character isMember
  rw [← isDigitOf_ten]
  exact plain.digits character isMember

/-- Digits are split off up to what is no digit. -/
theorem spanDigits_append
    {digits rest : List Char}
    (isDigit : ∀ character ∈ digits, character.isDigit = true)
    (stops : ∀ character ∈ rest.head?, character.isDigit = false) :
    spanDigits (digits ++ rest) = (digits.filterMap digitValue, rest) := by
  have taken : rest.takeWhile Char.isDigit = [] := by
    cases rest with
    | nil => rfl
    | cons character others =>
        exact List.takeWhile_cons_of_neg (by simp [stops character rfl])
  have dropped : rest.dropWhile Char.isDigit = rest := by
    cases rest with
    | nil => rfl
    | cons character others =>
        exact List.dropWhile_cons_of_neg (by simp [stops character rfl])
  rw [spanDigits, List.takeWhile_append_of_pos isDigit, List.dropWhile_append_of_pos isDigit,
    taken, dropped, List.append_nil]

theorem filterMap_digitValue_ne_nil
    {characters : List Char}
    (plain : IsPlain 10 characters) :
    characters.filterMap digitValue ≠ [] := by
  obtain ⟨digits, nonempty⟩ := plain
  cases characters with
  | nil => exact absurd rfl nonempty
  | cons character rest =>
      have digit := digits character List.mem_cons_self
      rw [isDigitOf_ten] at digit
      have read : digitValue character = some (character.toNat - 48) := by
        rw [digitValue, if_pos digit]
      rw [List.filterMap_cons_some read]
      exact List.cons_ne_nil _ _

/-- A power of ten: a mark, a sign and digits. -/
inductive IsPower : List Char → Prop
  | mk {mark : Char} {sign digits : List Char}
      (isMark : mark = 'e' ∨ mark = 'E')
      (isSign : sign ∈ [[], ['+'], ['-']])
      (plain : IsPlain 10 digits) :
      IsPower (mark :: (sign ++ digits))

/-- A power of ten can be read. -/
theorem IsPower.readPower?
    {characters : List Char}
    (isPower : IsPower characters) :
    ∃ power, readPower? characters = some power := by
  cases isPower with
  | @mk mark sign digits isMark isSign plain =>
      obtain ⟨negative, signed⟩ : ∃ negative, splitSign (sign ++ digits) = (negative, digits) := by
        simp only [List.mem_cons, List.not_mem_nil, or_false] at isSign
        obtain rfl | rfl | rfl := isSign
        · refine ⟨false, splitSign_eq ?_⟩
          intro character isHead
          have bounds := plain.alphanumeric character (List.mem_of_mem_head? isHead)
          omega
        · exact ⟨false, rfl⟩
        · exact ⟨true, rfl⟩
      have ends : ∀ character ∈ ([] : List Char).head?, character.isDigit = false := by simp
      have spanned : spanDigits digits = (digits.filterMap digitValue, []) := by
        have whole := spanDigits_append plain.isDigit ends
        rwa [List.append_nil] at whole
      have nonempty : (digits.filterMap digitValue).isEmpty = false := by
        rw [List.isEmpty_eq_false_iff]
        exact filterMap_digitValue_ne_nil plain
      have marks : (mark = 'e' || mark = 'E') = true := by simpa using isMark
      simp only [Numeral.readPower?, marks, if_true, signed, spanned, nonempty,
        List.isEmpty_nil, Bool.not_true, Bool.or_self, Bool.false_eq_true, if_false]
      exact ⟨_, rfl⟩

theorem IsPower.head
    {characters : List Char}
    (isPower : IsPower characters) :
    ∃ mark rest, characters = mark :: rest ∧ (mark = 'e' ∨ mark = 'E') := by
  cases isPower with
  | mk isMark isSign plain => exact ⟨_, _, rfl, isMark⟩

/-- A decimal numeral without blanks is read if there is a digit in front of its power. -/
theorem readDecimal_ok
    {whole tail power : List Char}
    {fraction : List Nat}
    (visible : ∀ character ∈ whole ++ tail, 32 < character.toNat ∧ character.toNat < 127)
    (unsigned : ∀ character ∈ (whole ++ tail).head?, 46 ≤ character.toNat)
    (isDigit : ∀ character ∈ whole, character.isDigit = true)
    (stops : ∀ character ∈ tail.head?, character.isDigit = false)
    (divided : splitFraction tail = (fraction, power))
    (powered : ∃ value, readPower? power = some value)
    (nonempty : whole.filterMap digitValue ≠ [] ∨ fraction ≠ []) :
    ∃ value, readDecimal (String.ofList (whole ++ tail)) = .ok value := by
  obtain ⟨value, powered⟩ := powered
  have ascii : (String.ofList (whole ++ tail)).toList.map numeralForm = whole ++ tail := by
    rw [String.toList_ofList]
    exact map_numeralForm_eq fun character isMember => (visible character isMember).2
  have noBlank : ∀ character ∈ whole ++ tail, isBlank character = false := by
    intro character isMember
    exact isBlank_eq_false (visible character isMember).1
  have trimmed : trimBlanks (whole ++ tail) = whole ++ tail := by
    rw [trimBlanks, dropWhile_isBlank_eq noBlank, dropWhile_isBlank_eq, List.reverse_reverse]
    intro character isMember
    exact noBlank character (List.mem_reverse.mp isMember)
  have written : ((whole.filterMap digitValue).isEmpty && fraction.isEmpty) = false := by
    simp only [Bool.and_eq_false_iff, List.isEmpty_eq_false_iff]
    exact nonempty
  unfold readDecimal
  simp only [ascii, trimmed, splitSign_eq unsigned, spanDigits_append isDigit stops, divided,
    powered, written, Bool.false_eq_true, if_false]
  exact ⟨_, rfl⟩

end Numeral
end ComponentOutline
