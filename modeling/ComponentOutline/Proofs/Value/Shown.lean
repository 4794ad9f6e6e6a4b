import ComponentOutline.Proofs.Number.Numeral
import ComponentOutline.Value.Shown
import Mathlib.Data.Nat.Digits.Defs

/-!
# The characters of a shown value

A shown value stands on one line and holds no control: what is no printable code point is
escaped inside of its quotes.  It never ends in a backslash.
-/

namespace ComponentOutline

/-- What holds of some characters can be found out by a look at each. -/
theorem forall_mem_of_all
    {property : Char → Prop}
    [DecidablePred property]
    {characters : List Char}
    (all : characters.all (fun character => property character) = true) :
    ∀ character ∈ characters, property character := by
  simpa using all

/-- Whether a character is neither a control nor a backslash. -/
def IsMark (character : Char) : Prop :=
  32 ≤ character.toNat ∧ character ≠ '\\'

instance (character : Char) : Decidable (IsMark character) :=
  inferInstanceAs (Decidable (_ ∧ _))

/-! ## Numerals -/

theorem isMark_of_isDigit {character : Char} (isDigit : character.isDigit = true) :
    IsMark character := by
  obtain ⟨low, -⟩ := Numeral.bounds_of_isDigit isDigit
  refine ⟨by omega, ?_⟩
  rintro rfl
  exact absurd isDigit (by decide)

/-- Decimal digits are neither controls nor backslashes. -/
theorem isMark_of_mem_toDigits
    {character : Char}
    {number : Nat}
    (isDigit : character ∈ Nat.toDigits 10 number) :
    IsMark character :=
  isMark_of_isDigit (Nat.isDigit_of_mem_toDigits (by decide) (by decide) isDigit)

theorem isMark_toString (value : Int) :
    ∀ character ∈ (toString value).toList, IsMark character := by
  have nat (number : Nat) : ∀ character ∈ (toString number).toList, IsMark character := by
    intro character isIn
    rw [Nat.toString_eq_ofList_toDigits, String.toList_ofList] at isIn
    exact isMark_of_mem_toDigits isIn
  cases value with
  | ofNat number => exact nat number
  | negSucc number =>
      intro character isIn
      change character ∈ ("-" ++ toString (number + 1)).toList at isIn
      rw [String.toList_append, List.mem_append] at isIn
      obtain sign | digit := isIn
      · rw [List.mem_singleton.1 sign]
        decide
      · exact nat _ character digit

/-- A decimal is written without controls and backslashes. -/
theorem Decimal.isMark_write (decimal : Decimal) :
    ∀ character ∈ (decimal.write FloatFormat.plain).toList, IsMark character := by
  have digits : ∀ character ∈ Nat.toDigits 10 decimal.digits, IsMark character :=
    fun _ => isMark_of_mem_toDigits
  have zeros (count : Nat) : ∀ character ∈ List.replicate count '0', IsMark character := by
    intro character isZero
    rw [List.eq_of_mem_replicate isZero]
    decide
  have filled {text : List Char} (marks : ∀ character ∈ text, IsMark character) :
      ∀ character ∈ (if text.isEmpty then ['0'] else text), IsMark character := by
    split
    · exact forall_mem_of_all rfl
    · exact marks
  unfold Decimal.write
  dsimp only
  split
  · simp only [String.toList_ofList, List.forall_mem_append, List.forall_mem_cons]
    refine ⟨?_, by decide, filled ?_⟩
    · split
      · exact forall_mem_of_all rfl
      · exact List.forall_mem_append.2
          ⟨fun _ isIn => digits _ (List.mem_of_mem_take isIn), zeros _⟩
    · split
      · exact List.forall_mem_append.2 ⟨zeros _, digits⟩
      · exact fun _ isIn => digits _ (List.mem_of_mem_drop isIn)
  · simp only [String.toList_ofList, List.forall_mem_append]
    refine ⟨⟨⟨⟨?_, ?_⟩, ?_⟩, zeros _⟩, fun _ => isMark_of_mem_toDigits⟩
    · exact fun _ isIn => digits _ (List.mem_of_mem_take isIn)
    · split
      · exact forall_mem_of_all rfl
      · exact List.forall_mem_cons.2
          ⟨by decide, fun _ isIn => digits _ (List.mem_of_mem_drop isIn)⟩
    · split
      · exact forall_mem_of_all rfl
      · exact forall_mem_of_all rfl

theorem Binary64.isMark_toText (number : Binary64) :
    ∀ character ∈ number.toText.toList, IsMark character := by
  have signed (negative : Bool) {text : String}
      (marks : ∀ character ∈ text.toList, IsMark character) :
      ∀ character ∈ ((if negative then "-" else "") ++ text).toList, IsMark character := by
    rw [String.toList_append]
    refine List.forall_mem_append.2 ⟨?_, marks⟩
    cases negative with
    | false => exact forall_mem_of_all rfl
    | true => exact forall_mem_of_all rfl
  cases number with
  | nan => exact forall_mem_of_all rfl
  | infinite negative => exact signed negative (forall_mem_of_all rfl)
  | finite negative significand exponent =>
      refine signed negative ?_
      split
      · exact forall_mem_of_all rfl
      · exact Decimal.isMark_write _

/-! ## Quoted text -/

theorem le_toNat_digitChar (digit : Nat) : 32 ≤ digit.digitChar.toNat := by
  obtain small | large := Nat.lt_or_ge digit 16
  · have each : ∀ digit : Fin 16, 32 ≤ (Nat.digitChar digit).toNat := by decide
    exact each ⟨digit, small⟩
  · have other : digit.digitChar = '*' := by
      unfold Nat.digitChar
      repeat rw [if_neg (by omega)]
    rw [other]
    decide

theorem le_toNat_of_mem_toDigitsCore
    {base fuel number : Nat}
    {digits : List Char}
    (shown : ∀ character ∈ digits, 32 ≤ character.toNat) :
    ∀ character ∈ Nat.toDigitsCore base fuel number digits, 32 ≤ character.toNat := by
  induction fuel generalizing number digits with
  | zero => exact shown
  | succ fuel inductionHypothesis =>
      have longer : ∀ character ∈ (number % base).digitChar :: digits, 32 ≤ character.toNat :=
        List.forall_mem_cons.2 ⟨le_toNat_digitChar _, shown⟩
      rw [Nat.toDigitsCore]
      split
      · exact longer
      · exact inductionHypothesis longer

/-- No hexadecimal digit is a control. -/
theorem le_toNat_hexDigits (width number : Nat) :
    ∀ character ∈ (hexDigits width number).toList, 32 ≤ character.toNat := by
  rw [hexDigits, String.toList_ofList, List.forall_mem_append]
  constructor
  · intro character isZero
    rw [List.eq_of_mem_replicate isZero]
    decide
  · exact le_toNat_of_mem_toDigitsCore (List.forall_mem_nil _)

/-- A surrogate is not printable. -/
theorem CodePoint.isPrintable_of_surrogate
    {point : CodePoint}
    (low : 0xD800 ≤ point.val)
    (high : point.val < 0xE000) :
    point.isPrintable = false := by
  have covered : (0xD7FC, 0xF8FF) ∈ Unprintable.from2C00 := by decide
  have table : Unprintable.rangesFor point.val = Unprintable.from2C00 := by
    unfold Unprintable.rangesFor
    rw [if_neg (by omega), if_neg (by omega), if_neg (by omega), if_pos (by omega)]
  rw [CodePoint.isPrintable, if_neg (by omega), table, List.all_eq_false]
  refine ⟨_, covered, ?_⟩
  simp only [Bool.or_eq_true, decide_eq_true_eq]
  omega

/-- No printable code point is a control. -/
theorem CodePoint.le_toNat_of_isPrintable
    {point : CodePoint}
    (printable : point.isPrintable = true) :
    32 ≤ (Char.ofNat point.val).toNat := by
  have noControl : 32 ≤ point.val := by
    by_contra control
    rw [CodePoint.isPrintable, if_pos (by omega), decide_eq_true_eq] at printable
    exact control printable
  have valid : point.val.isValidChar := by
    by_contra invalid
    have surrogate : 0xD800 ≤ point.val ∧ point.val < 0xE000 := by
      have inRange := point.isLt
      unfold Nat.isValidChar at invalid
      omega
    rw [CodePoint.isPrintable_of_surrogate surrogate.1 surrogate.2] at printable
    cases printable
  rw [Char.ofNat, dif_pos valid]
  exact noControl

/-- Quoting writes controls as escapes. -/
theorem CodePoint.le_toNat_quotedBy
    {quote : Char}
    (shownQuote : 32 ≤ quote.toNat)
    (point : CodePoint) :
    ∀ character ∈ (point.quotedBy quote).toList, 32 ≤ character.toNat := by
  unfold CodePoint.quotedBy
  split_ifs with isQuote isBackslash isTab isLineEnd isReturn printable short middle
  · rw [String.toList_ofList]
    exact List.forall_mem_cons.2 ⟨by decide, List.forall_mem_singleton.2 shownQuote⟩
  · exact forall_mem_of_all rfl
  · exact forall_mem_of_all rfl
  · exact forall_mem_of_all rfl
  · exact forall_mem_of_all rfl
  · rw [String.toList_ofList, List.forall_mem_singleton]
    exact le_toNat_of_isPrintable printable
  · rw [String.toList_append, List.forall_mem_append]
    exact ⟨forall_mem_of_all rfl, le_toNat_hexDigits 2 _⟩
  · rw [String.toList_append, List.forall_mem_append]
    exact ⟨forall_mem_of_all rfl, le_toNat_hexDigits 4 _⟩
  · rw [String.toList_append, List.forall_mem_append]
    exact ⟨forall_mem_of_all rfl, le_toNat_hexDigits 8 _⟩

theorem Text.quoteMark_eq (text : Text) : text.quoteMark = '"' ∨ text.quoteMark = '\'' := by
  unfold Text.quoteMark
  split
  · exact .inl rfl
  · exact .inr rfl

/-- No control is left in a quoted text. -/
theorem Text.le_toNat_quoted (text : Text) :
    ∀ character ∈ text.quoted.toList, 32 ≤ character.toNat := by
  have shownQuote : 32 ≤ text.quoteMark.toNat := by
    obtain double | single := text.quoteMark_eq
    · rw [double]; decide
    · rw [single]; decide
  simp only [Text.quoted, String.toList_append, String.toList_ofList, String.toList_join,
    List.forall_mem_append, List.forall_mem_singleton, List.flatMap_map]
  refine ⟨⟨shownQuote, ?_⟩, shownQuote⟩
  intro character isIn
  obtain ⟨point, -, isIn⟩ := List.mem_flatMap.1 isIn
  exact point.le_toNat_quotedBy shownQuote character isIn

/-! ## Values -/

/-- What holds of the separator and of each text holds of the texts with separators between. -/
theorem forall_mem_intercalate
    {property : Char → Prop}
    {separator : String}
    {texts : List String}
    (between : ∀ character ∈ separator.toList, property character)
    (each : ∀ text ∈ texts, ∀ character ∈ text.toList, property character) :
    ∀ character ∈ (separator.intercalate texts).toList, property character := by
  rw [String.toList_intercalate]
  induction texts with
  | nil => exact fun _ isIn => absurd isIn List.not_mem_nil
  | cons text rest inductionHypothesis =>
      obtain ⟨first, others⟩ := List.forall_mem_cons.1 each
      cases rest with
      | nil => simpa using first
      | cons next rest =>
          rw [List.map_cons, List.map_cons, List.intercalate_cons_cons, List.forall_mem_append,
            List.forall_mem_append]
          exact ⟨⟨first, between⟩, inductionHypothesis others⟩

namespace Value

theorem shownItems_eq (items : List Value) : shownItems items = items.map shown := by
  induction items with
  | nil => rfl
  | cons item rest inductionHypothesis => rw [shownItems, inductionHypothesis, List.map_cons]

theorem shownEntries_eq (entries : List (Text × Value)) :
    shownEntries entries = entries.map fun entry => entry.1.quoted ++ ": " ++ entry.2.shown := by
  induction entries with
  | nil => rfl
  | cons entry rest inductionHypothesis =>
      rw [shownEntries, inductionHypothesis, List.map_cons]

/-- A number is shown without controls and backslashes. -/
theorem isMark_shown_number (number : Number) :
    ∀ character ∈ number.shown.toList, IsMark character := by
  cases number with
  | whole value => exact isMark_toString value
  | float value => exact value.isMark_toText

/-- A shown value holds no control. -/
theorem le_toNat_shown (value : Value) :
    ∀ character ∈ value.shown.toList, 32 ≤ character.toNat := by
  induction value using Value.induction with
  | null => exact forall_mem_of_all rfl
  | bool value => cases value <;> exact forall_mem_of_all rfl
  | number number => exact fun character isIn => (isMark_shown_number number character isIn).1
  | text text => exact text.le_toNat_quoted
  | list items inductionHypothesis =>
      rw [shown, shownItems_eq]
      simp only [String.toList_append, List.forall_mem_append]
      refine ⟨⟨forall_mem_of_all rfl, forall_mem_intercalate (forall_mem_of_all rfl) ?_⟩,
        forall_mem_of_all rfl⟩
      rw [List.forall_mem_map]
      exact inductionHypothesis
  | record entries inductionHypothesis =>
      rw [shown, shownEntries_eq]
      simp only [String.toList_append, List.forall_mem_append]
      refine ⟨⟨forall_mem_of_all rfl, forall_mem_intercalate (forall_mem_of_all rfl) ?_⟩,
        forall_mem_of_all rfl⟩
      rw [List.forall_mem_map]
      intro entry isEntry
      simp only [String.toList_append, List.forall_mem_append]
      exact ⟨⟨entry.1.le_toNat_quoted, forall_mem_of_all rfl⟩, inductionHypothesis entry isEntry⟩

/-- A shown value does not end in a backslash. -/
theorem getLast?_shown (value : Value) : value.shown.toList.getLast? ≠ some '\\' := by
  cases value with
  | null => decide
  | bool value => cases value <;> decide
  | number number =>
      intro ends
      exact (isMark_shown_number number _ (List.mem_of_getLast? ends)).2 rfl
  | text text =>
      have shownAs : (Value.text text).shown.toList.getLast? = some text.quoteMark := by
        rw [shown, Text.quoted, String.toList_append, String.toList_ofList]
        exact List.getLast?_concat
      rw [shownAs]
      obtain double | single := text.quoteMark_eq
      · rw [double]; decide
      · rw [single]; decide
  | list items =>
      have shownAs : (Value.list items).shown.toList.getLast? = some ']' := by
        rw [shown, String.toList_append]
        exact List.getLast?_concat
      rw [shownAs]
      decide
  | record entries =>
      have shownAs : (Value.record entries).shown.toList.getLast? = some '\x7d' := by
        rw [shown, String.toList_append]
        exact List.getLast?_concat
      rw [shownAs]
      decide

end Value
end ComponentOutline
