import ComponentOutline.Proofs.Literal.SourceValue
import ComponentOutline.Proofs.Literal.Spelling

/-!
# Strings by tokens and by the grammar

The children of a string literal divide its characters into fragments and escape tokens, each
as long as it can be.  The tokens are not the escapes of the grammar: a token of three octal
digits may have a value beyond 377, and then the grammar takes its last digit for a character
of its own.  A string literal is decoded to the value that the grammar gives to its
characters exactly if it has no such token.
-/

namespace ComponentOutline
namespace Literal

open Numeral

/-! ## Tokens -/

/-- The escape tokens. -/
inductive IsToken : List Char → Prop
  | single {character : Char}
      (noMark : character ≠ 'x' ∧ character ≠ 'u')
      (noOctal : ¬ worth character < 8) :
      IsToken ['\\', character]
  | octal {digits : List Char}
      (numeral : IsNumeral 8 digits)
      (short : digits.length ≤ 3) :
      IsToken ('\\' :: digits)
  | byte {digits : List Char}
      (numeral : IsNumeral 16 digits)
      (two : digits.length = 2) :
      IsToken ('\\' :: 'x' :: digits)
  | unit {digits : List Char}
      (numeral : IsNumeral 16 digits)
      (four : digits.length = 4) :
      IsToken ('\\' :: 'u' :: digits)
  | braced {digits : List Char}
      (numeral : IsNumeral 16 digits)
      (known : valueOf 16 digits ≤ 0x10FFFF) :
      IsToken ('\\' :: 'u' :: '\x7b' :: (digits ++ ['\x7d']))
  | lineBreak {sequence : List Char}
      (continues : sequence ∈ continuations) :
      IsToken sequence

/-- No token that begins like this one in front of given characters is longer. -/
def IsLongest (token following : List Char) : Prop :=
  ∀ longer, IsToken longer → longer <+: token ++ following → longer.length ≤ token.length

/-- The children of a string literal divide the characters between its quotes into fragments
and escape tokens, each as long as it can be. -/
inductive Divides (quote : Char) : List Char → List Node → Prop
  | done : Divides quote [] []
  | fragment {characters rest : List Char} {child : Node} {children : List Node}
      (nonempty : characters ≠ [])
      (raw : ∀ character ∈ characters, IsRaw quote character)
      (longest : ∀ next ∈ rest.head?, ¬ IsRaw quote next)
      (kind : child.kind = "string_fragment")
      (read : child.text = .ok (String.ofList characters))
      (more : Divides quote rest children) :
      Divides quote (characters ++ rest) (child :: children)
  | escape {token rest : List Char} {child : Node} {children : List Node}
      (isToken : IsToken token)
      (longest : IsLongest token rest)
      (written : IsSequence child token)
      (more : Divides quote rest children) :
      Divides quote (token ++ rest) (child :: children)

/-- A child is an octal escape whose value is beyond 377. -/
def IsOverlong (child : Node) : Prop :=
  ∃ digits, IsNumeral 8 digits ∧ 0o377 < valueOf 8 digits ∧ IsSequence child ('\\' :: digits)

/-! ## The value of a token -/

/-- What a token is decoded to is its value in front of given characters. -/
def HasSourceValue (token following : List Char) : Prop :=
  ∃ body text, token = '\\' :: body ∧ decodeEscape (String.ofList token) = .ok text ∧
    EscapeValue body following text.units

theorem units_singleton (point : CodePoint) : Text.units [point] = point.units := by
  rw [Text.units_cons]
  exact List.append_nil _

/-- A token of one code point has its units for a value. -/
theorem hasSourceValue_of_point
    {body following : List Char}
    {point : CodePoint}
    (decoded : decodeEscape (String.ofList ('\\' :: body)) = .ok [point])
    (value : EscapeValue body following point.units) :
    HasSourceValue ('\\' :: body) following :=
  ⟨body, [point], rfl, decoded, by rwa [units_singleton]⟩

/-- An escaped line break takes a line feed with it if there is one. -/
theorem hasSourceValue_lineBreak
    {terminator : Char}
    {following : List Char}
    (terminates : terminator ∈ lineTerminators)
    (longest : IsLongest ['\\', terminator] following) :
    HasSourceValue ['\\', terminator] following := by
  have decoded : ∀ terminator ∈ lineTerminators, isLineBreak terminator = true := by
    intro terminator terminates
    simp only [lineTerminators, List.mem_cons, List.not_mem_nil, or_false] at terminates
    obtain rfl | rfl | rfl | rfl := terminates
    all_goals decide
  refine ⟨[terminator], [], rfl, ?_, .lineBreak terminates ?_⟩
  · rw [decodeEscape_ofList]
    simp [escaped, decoded terminator terminates]
  · rintro rfl feeds
    obtain ⟨rest, rfl⟩ := List.head?_eq_some_iff.mp feeds
    have continues : ['\\', '\r', '\n'] ∈ continuations := by decide
    exact absurd (longest _ (.lineBreak continues) ⟨rest, rfl⟩) (by decide)

/-- A continuation has no value in the source, and none is decoded. -/
theorem hasSourceValue_continuation
    {sequence following : List Char}
    (continues : sequence ∈ continuations)
    (longest : IsLongest sequence following) :
    HasSourceValue sequence following := by
  simp only [continuations, List.mem_cons, List.not_mem_nil, or_false] at continues
  obtain rfl | rfl | rfl | rfl | rfl := continues
  · exact hasSourceValue_lineBreak (by decide) longest
  · exact hasSourceValue_lineBreak (by decide) longest
  · exact ⟨['\r', '\n'], [], rfl, rfl, .lineBreaks⟩
  · exact hasSourceValue_lineBreak (by decide) longest
  · exact hasSourceValue_lineBreak (by decide) longest

theorem decodeEscape_single
    {letter character : Char}
    (means : (letter, character) ∈ singleEscapes) :
    decodeEscape (String.ofList ['\\', letter]) = .ok [CodePoint.ofChar character] := by
  simp only [singleEscapes, List.mem_cons, Prod.mk.injEq, List.not_mem_nil, or_false] at means
  rw [decodeEscape_ofList]
  obtain ⟨rfl, rfl⟩ | ⟨rfl, rfl⟩ | ⟨rfl, rfl⟩ | ⟨rfl, rfl⟩ | ⟨rfl, rfl⟩ | ⟨rfl, rfl⟩ |
    ⟨rfl, rfl⟩ | ⟨rfl, rfl⟩ | ⟨rfl, rfl⟩ := means
  all_goals rfl

theorem worth_lt_of_octal
    {character : Char}
    (octal : '0' ≤ character ∧ character ≤ '7') :
    worth character < 8 := by
  have ascii : character.toNat < 128 := by
    have bound := octal.2
    rw [Char.le_def, UInt32.le_iff_toNat_le] at bound
    change character.toNat ≤ 55 at bound
    omega
  revert octal
  exact of_ascii (fun character => '0' ≤ character ∧ character ≤ '7' → worth character < 8)
    (by decide +kernel) ascii

theorem eight_or_nine
    {digit : Char}
    (decimal : worth digit < 10)
    (noOctal : ¬ worth digit < 8) :
    digit = '8' ∨ digit = '9' := by
  have ascii := ascii_of_worth (Nat.lt_trans decimal (by decide))
  revert decimal noOctal
  exact of_ascii
    (fun digit => worth digit < 10 → ¬ worth digit < 8 → digit = '8' ∨ digit = '9')
    (by decide +kernel) ascii

/-- One character after the backslash is decoded to its value in the source. -/
theorem hasSourceValue_single
    {character : Char}
    {following : List Char}
    (noMark : character ≠ 'x' ∧ character ≠ 'u')
    (noOctal : ¬ worth character < 8)
    (longest : IsLongest ['\\', character] following) :
    HasSourceValue ['\\', character] following := by
  by_cases breaks : character ∈ lineTerminators
  · exact hasSourceValue_lineBreak breaks longest
  by_cases single : character ∈ singleEscapes.map Prod.fst
  · obtain ⟨⟨letter, meant⟩, means, rfl⟩ := List.mem_map.mp single
    exact hasSourceValue_of_point (decodeEscape_single means) (.single means)
  -- what is left has no meaning of its own behind a backslash
  have noLetter : character ∉ ['x', 'u', 'n', 't', 'r', 'b', 'f', 'v'] := by
    intro isLetter
    simp only [List.mem_cons, noMark, false_or] at isLetter
    apply single
    simp only [singleEscapes, List.map_cons, List.map_nil, List.mem_cons]
    tauto
  have decoded : decodeEscape (String.ofList ['\\', character]) =
      .ok [CodePoint.ofChar character] := by
    rw [decodeEscape_ofList]
    exact escaped_itself breaks (fun octal => noOctal (worth_lt_of_octal octal)) noLetter
  by_cases decimal : worth character < 10
  · exact hasSourceValue_of_point decoded (.decimal (eight_or_nine decimal noOctal))
  · exact hasSourceValue_of_point decoded (.itself single decimal noMark breaks)

/-! ### Numbered escapes -/

/-- Digits of a base stay below the power of the base. -/
theorem valueOf_lt
    {base : Nat}
    {digits : List Char}
    (numeral : IsNumeral base digits)
    (known : base ≤ 16) :
    valueOf base digits < base ^ digits.length := by
  rw [← numeral.positional_eq known]
  exact positional_lt (numeral.isPlain known).digits

/-- Two hexadecimal digits are decoded to their value in the source. -/
theorem hasSourceValue_byte
    {digits following : List Char}
    (numeral : IsNumeral 16 digits)
    (two : digits.length = 2) :
    HasSourceValue ('\\' :: 'x' :: digits) following := by
  have bound := valueOf_lt numeral (by decide)
  rw [two] at bound
  obtain ⟨point, value⟩ : ∃ point : CodePoint, valueOf 16 digits = point.val :=
    ⟨⟨_, Nat.lt_trans bound (by decide)⟩, rfl⟩
  refine hasSourceValue_of_point ?_ (.byte numeral two value)
  rw [decodeEscape_ofList]
  change (numberedPoint .hexadecimal digits).map _ = _
  rw [numberedPoint_hexadecimal point numeral value]
  rfl

theorem hasSourceValue_unit
    {digits following : List Char}
    (numeral : IsNumeral 16 digits)
    (four : digits.length = 4) :
    HasSourceValue ('\\' :: 'u' :: digits) following := by
  have bound := valueOf_lt numeral (by decide)
  rw [four] at bound
  obtain ⟨point, value⟩ : ∃ point : CodePoint, valueOf 16 digits = point.val :=
    ⟨⟨_, Nat.lt_trans bound (by decide)⟩, rfl⟩
  exact hasSourceValue_of_point (decodeEscape_unit point numeral value)
    (.unit numeral four value)

theorem hasSourceValue_braced
    {digits following : List Char}
    (numeral : IsNumeral 16 digits)
    (known : valueOf 16 digits ≤ 0x10FFFF) :
    HasSourceValue ('\\' :: 'u' :: '\x7b' :: (digits ++ ['\x7d'])) following := by
  obtain ⟨point, value⟩ : ∃ point : CodePoint, valueOf 16 digits = point.val :=
    ⟨⟨_, Nat.lt_succ_of_le known⟩, rfl⟩
  refine hasSourceValue_of_point ?_ (.braced numeral value)
  rw [decodeEscape_ofList, escaped_unit, trimBraces_braced (numeral.isPlain (by decide)),
    numberedPoint_hexadecimal point numeral value]
  rfl

/-! ### Octal escapes -/

/-- Octal digits are decoded to their positional value, however large it is. -/
theorem decodeEscape_octal
    {digits : List Char}
    (point : CodePoint)
    (numeral : IsNumeral 8 digits)
    (value : valueOf 8 digits = point.val) :
    decodeEscape (String.ofList ('\\' :: digits)) = .ok [point] := by
  have plain := numeral.isPlain (by decide)
  rw [decodeEscape_ofList, escaped_octal plain,
    numberedPoint_eq point numeral (by decide) (readInteger_octal plain) value]
  rfl

/-- An octal token that could hold another digit is not followed by one. -/
theorem not_octalFollows
    {digits following : List Char}
    (numeral : IsNumeral 8 digits)
    (room : digits.length < 3)
    (longest : IsLongest ('\\' :: digits) following) :
    ¬ OctalFollows following := by
  rintro ⟨digit, isNext, octal⟩
  obtain ⟨rest, rfl⟩ := List.head?_eq_some_iff.mp isNext
  have longer : IsToken ('\\' :: (digits ++ [digit])) := by
    refine .octal ⟨?_, by simp⟩ ?_
    · simpa [or_imp, forall_and, octal] using numeral.worth_lt
    · simp only [List.length_append, List.length_singleton]
      omega
  have bound := longest _ longer ⟨rest, by simp⟩
  simp at bound

theorem valueOf_two (base : Nat) (first second : Char) :
    valueOf base [first, second] = worth first * base + worth second := by
  simp only [valueOf, List.reverse_cons, List.reverse_nil, List.nil_append, List.cons_append,
    List.map_cons, List.map_nil, Nat.ofDigits_cons, Nat.ofDigits_nil]
  ring

theorem valueOf_three (base : Nat) (first second third : Char) :
    valueOf base [first, second, third] =
      (worth first * base + worth second) * base + worth third := by
  simp only [valueOf, List.reverse_cons, List.reverse_nil, List.nil_append, List.cons_append,
    List.map_cons, List.map_nil, Nat.ofDigits_cons, Nat.ofDigits_nil]
  ring

/-- An octal token has one, two or three digits. -/
theorem one_two_or_three
    {digits : List Char}
    (nonempty : digits ≠ [])
    (short : digits.length ≤ 3) :
    (∃ first, digits = [first]) ∨ (∃ first second, digits = [first, second]) ∨
      ∃ first second third, digits = [first, second, third] := by
  cases digits with
  | nil => exact absurd rfl nonempty
  | cons first rest =>
      cases rest with
      | nil => exact .inl ⟨first, rfl⟩
      | cons second rest =>
          cases rest with
          | nil => exact .inr (.inl ⟨first, second, rfl⟩)
          | cons third rest =>
              cases rest with
              | nil => exact .inr (.inr ⟨first, second, third, rfl⟩)
              | cons fourth rest =>
                  simp only [List.length_cons] at short
                  omega

/-- An octal token whose value is not beyond 377 is an octal escape. -/
theorem isOctalEscape_of_small
    {digits following : List Char}
    (numeral : IsNumeral 8 digits)
    (short : digits.length ≤ 3)
    (small : valueOf 8 digits ≤ 0o377)
    (ends : digits.length < 3 → ¬ OctalFollows following) :
    IsOctalEscape digits following := by
  obtain ⟨worth_lt, nonempty⟩ := numeral
  obtain ⟨digit, rfl⟩ | ⟨first, second, rfl⟩ | ⟨first, second, third, rfl⟩ :=
    one_two_or_three nonempty short
  · exact .one (worth_lt digit (by simp)) (ends (by simp))
  · have octal := worth_lt second (by simp)
    by_cases large : 4 ≤ worth first
    · exact .twoLarge large (worth_lt first (by simp)) octal
    · exact .two (by omega) octal (ends (by simp))
  · rw [valueOf_three] at small
    exact .three (by omega) (worth_lt second (by simp)) (worth_lt third (by simp))

/-- Octal digits up to 377 are decoded to their value in the source. -/
theorem hasSourceValue_octal
    {digits following : List Char}
    (numeral : IsNumeral 8 digits)
    (short : digits.length ≤ 3)
    (small : valueOf 8 digits ≤ 0o377)
    (longest : IsLongest ('\\' :: digits) following) :
    HasSourceValue ('\\' :: digits) following := by
  obtain ⟨point, value⟩ : ∃ point : CodePoint, valueOf 8 digits = point.val :=
    ⟨⟨_, Nat.lt_of_le_of_lt small (by decide)⟩, rfl⟩
  have escape := isOctalEscape_of_small numeral short small
    fun room => not_octalFollows numeral room longest
  exact hasSourceValue_of_point (decodeEscape_octal point numeral value) (.octal escape value)

theorem length_units_of_basic
    {point : CodePoint}
    (basic : point.val < 0x10000) :
    point.units.length = 1 := by
  rw [CodePoint.units, dif_pos basic]
  rfl

/-- A token whose value is beyond 377 is decoded to one unit.  The grammar takes the first two
of its digits for the escape, and the third one stands for itself. -/
theorem split_of_overlong
    {digits : List Char}
    (numeral : IsNumeral 8 digits)
    (short : digits.length ≤ 3)
    (large : 0o377 < valueOf 8 digits) :
    ∃ first second third value,
      digits = [first, second, third] ∧ worth third < 8 ∧
        (∀ following, EscapeValue [first, second] following value) ∧
        ∃ text, decodeEscape (String.ofList ('\\' :: digits)) = .ok text ∧
          text.units.length ≤ value.length := by
  have bound : valueOf 8 digits < 8 ^ 3 :=
    Nat.lt_of_lt_of_le (valueOf_lt numeral (by decide))
      (Nat.pow_le_pow_right (by decide) short)
  obtain ⟨point, value⟩ : ∃ point : CodePoint, valueOf 8 digits = point.val :=
    ⟨⟨_, Nat.lt_trans bound (by decide)⟩, rfl⟩
  have decoded := decodeEscape_octal point numeral value
  have basic : point.val < 0x10000 := by omega
  obtain ⟨worth_lt, nonempty⟩ := numeral
  obtain ⟨digit, rfl⟩ | ⟨first, second, rfl⟩ | ⟨first, second, third, rfl⟩ :=
    one_two_or_three nonempty short
  · have small := worth_lt digit (by simp)
    simp [valueOf] at large
    omega
  · have small := worth_lt first (by simp)
    have smallToo := worth_lt second (by simp)
    rw [valueOf_two] at large
    omega
  · have octalFirst := worth_lt first (by simp)
    have octal := worth_lt second (by simp)
    have octalThird := worth_lt third (by simp)
    rw [valueOf_three] at large
    have larger : 4 ≤ worth first := by omega
    let front : CodePoint := ⟨worth first * 8 + worth second, by omega⟩
    have frontValue : valueOf 8 [first, second] = front.val := valueOf_two 8 first second
    refine ⟨first, second, third, front.units, rfl, octalThird, fun following => ?_,
      [point], decoded, ?_⟩
    · exact .octal (.twoLarge larger octalFirst octal) frontValue
    · have frontBasic : front.val < 0x10000 := by
        change worth first * 8 + worth second < _
        omega
      rw [units_singleton, length_units_of_basic basic, length_units_of_basic frontBasic]

/-- A token has the value of the grammar unless it is an octal one beyond 377. -/
theorem IsToken.hasSourceValue
    {token following : List Char}
    (isToken : IsToken token)
    (longest : IsLongest token following)
    (small : ∀ digits, token = '\\' :: digits → IsNumeral 8 digits → valueOf 8 digits ≤ 0o377) :
    HasSourceValue token following := by
  cases isToken with
  | single noMark noOctal => exact hasSourceValue_single noMark noOctal longest
  | octal numeral short =>
      exact hasSourceValue_octal numeral short (small _ rfl numeral) longest
  | byte numeral two => exact hasSourceValue_byte numeral two
  | unit numeral four => exact hasSourceValue_unit numeral four
  | braced numeral known => exact hasSourceValue_braced numeral known
  | lineBreak continues => exact hasSourceValue_continuation continues longest

/-- No octal token is longer than three digits. -/
theorem IsToken.length_le
    {digits : List Char}
    (isToken : IsToken ('\\' :: digits))
    (numeral : IsNumeral 8 digits) :
    digits.length ≤ 3 := by
  have head := numeral.worth_lt
  cases isToken with
  | single noMark noOctal => simp
  | octal numeral short => exact short
  | byte numeral two => exact absurd (head _ List.mem_cons_self) (by decide)
  | unit numeral four => exact absurd (head _ List.mem_cons_self) (by decide)
  | braced numeral known => exact absurd (head _ List.mem_cons_self) (by decide)
  | lineBreak continues =>
      simp only [continuations, List.mem_cons, List.cons.injEq, true_and, List.not_mem_nil,
        or_false] at continues
      obtain rfl | rfl | rfl | rfl | rfl := continues
      all_goals simp

/-! ## The value of a string -/

/-- How what children are decoded to compares with a value: the units are the same, or there
are fewer because of overlong escapes. -/
structure Compares (children : List Node) (text : Text) (units : List CodeUnit) : Prop where
  same : (∀ child ∈ children, ¬ IsOverlong child) → text.units = units
  fewer : (∃ child ∈ children, IsOverlong child) → text.units.length < units.length

namespace Compares

variable {child : Node} {children : List Node} {text front : Text} {units value : List CodeUnit}

/-- What is decoded is never longer than the value in the source. -/
theorem length_le (compares : Compares children text units) :
    text.units.length ≤ units.length := by
  by_cases overlong : ∃ child ∈ children, IsOverlong child
  · exact Nat.le_of_lt (compares.fewer overlong)
  · rw [compares.same fun child isMember isOverlong => overlong ⟨child, isMember, isOverlong⟩]

/-- In front of others, a part that is decoded to its value keeps what is known of them. -/
theorem cons_same
    (compares : Compares children text units)
    (regular : ¬ IsOverlong child)
    (here : front.units = value) :
    Compares (child :: children) (front ++ text) (value ++ units) := by
  subst here
  constructor
  · intro noneOverlong
    have others := compares.same fun child isMember =>
      noneOverlong child (List.mem_cons_of_mem _ isMember)
    rw [Text.units_append, others]
  · rintro ⟨overlong, isMember, isOverlong⟩
    obtain rfl | isMember := List.mem_cons.mp isMember
    · exact absurd isOverlong regular
    · have fewer := compares.fewer ⟨overlong, isMember, isOverlong⟩
      rw [Text.units_append, List.length_append, List.length_append]
      omega

/-- An overlong token in front makes the units fewer, whatever comes after it. -/
theorem cons_fewer
    (compares : Compares children text units)
    (overlong : IsOverlong child)
    (here : front.units.length < value.length) :
    Compares (child :: children) (front ++ text) (value ++ units) := by
  constructor
  · intro noneOverlong
    exact absurd overlong (noneOverlong child List.mem_cons_self)
  · intro _
    have others := compares.length_le
    rw [Text.units_append, List.length_append, List.length_append]
    omega

/-- What is decoded is the value in the source exactly if no token is overlong. -/
theorem same_iff (compares : Compares children text units) :
    text.units = units ↔ ∀ child ∈ children, ¬ IsOverlong child := by
  constructor
  · intro same child isMember overlong
    have fewer := compares.fewer ⟨child, isMember, overlong⟩
    rw [same] at fewer
    exact Nat.lt_irrefl _ fewer
  · exact compares.same

end Compares

/-- Characters that are written as they are stand for themselves. -/
theorem SourceValue.append_raw
    {quote : Char}
    {characters rest : List Char}
    {units : List CodeUnit}
    (more : SourceValue quote rest units)
    (raw : ∀ character ∈ characters, IsRaw quote character) :
    SourceValue quote (characters ++ rest)
      (Text.units (characters.map CodePoint.ofChar) ++ units) := by
  induction characters with
  | nil => exact more
  | cons character others inductionHypothesis =>
      obtain ⟨here, rawOthers⟩ := List.forall_mem_cons.mp raw
      rw [List.map_cons, Text.units_cons, List.append_assoc]
      exact .raw here (inductionHypothesis rawOthers)

/-- An octal digit is no quote and needs no escape. -/
theorem isRaw_of_octal
    {quote digit : Char}
    (isQuote : quote = '\'' ∨ quote = '"')
    (octal : worth digit < 8) :
    IsRaw quote digit := by
  simp only [IsRaw, List.mem_cons, List.not_mem_nil, or_false, not_or]
  refine ⟨?_, ?_, ?_, ?_⟩
  · rintro rfl
    obtain rfl | rfl := isQuote
    · exact absurd octal (by decide)
    · exact absurd octal (by decide)
  · rintro rfl
    exact absurd octal (by decide)
  · rintro rfl
    exact absurd octal (by decide)
  · rintro rfl
    exact absurd octal (by decide)

theorem length_units_pos (point : CodePoint) : 0 < point.units.length := by
  unfold CodePoint.units
  split
  · exact Nat.one_pos
  · exact Nat.two_pos

theorem not_isOverlong_of_fragment
    {child : Node}
    (kind : child.kind = "string_fragment") :
    ¬ IsOverlong child := by
  rintro ⟨digits, -, -, written⟩
  exact absurd (kind.symm.trans written.kind) (by decide)

/-- The digits of an overlong child are those of the sequence that it is. -/
theorem IsSequence.eq
    {child : Node}
    {characters others : List Char}
    (first : IsSequence child characters)
    (second : IsSequence child others) :
    characters = others := by
  have same := Except.ok.inj (first.read.symm.trans second.read)
  simpa using congrArg String.toList same

/-- Children that divide the characters of a string are decoded, and the characters have a
value that compares with what they are decoded to. -/
theorem Divides.compares
    {quote : Char}
    {characters : List Char}
    {children : List Node}
    (isQuote : quote = '\'' ∨ quote = '"')
    (divides : Divides quote characters children) :
    ∃ text units,
      decodeParts children = .ok text ∧ SourceValue quote characters units ∧
        Compares children text units := by
  induction divides with
  | done => exact ⟨[], [], rfl, .done, fun _ => rfl, nofun⟩
  | @fragment characters rest child children nonempty raw longest kind read more
      inductionHypothesis =>
      obtain ⟨text, units, decoded, value, compares⟩ := inductionHypothesis
      have part := decodePart_of_fragment kind (Node.readText_eq_ok_iff.mpr read)
      refine ⟨_, _, decodeParts_cons part decoded, value.append_raw raw, ?_⟩
      refine compares.cons_same (not_isOverlong_of_fragment kind) ?_
      rw [Text.ofString, String.toList_ofList]
  | @escape token rest child children isToken longest written more inductionHypothesis =>
      obtain ⟨text, units, decoded, value, compares⟩ := inductionHypothesis
      by_cases overlong : IsOverlong child
      · obtain ⟨digits, numeral, large, isDigits⟩ := overlong
        obtain rfl := written.eq isDigits
        obtain ⟨first, second, third, front, rfl, octal, escape, point, stands, atMost⟩ :=
          split_of_overlong numeral (isToken.length_le numeral) large
        have part : decodePart child = .ok point := by
          rw [written.decodePart_eq, stands]
          rfl
        have raw := SourceValue.raw (isRaw_of_octal isQuote octal) value
        have whole := SourceValue.escape (escape (third :: rest)) raw
        rw [← List.append_assoc] at whole
        refine ⟨_, _, decodeParts_cons part decoded, whole, ?_⟩
        apply compares.cons_fewer ⟨_, numeral, large, written⟩
        have positive := length_units_pos (CodePoint.ofChar third)
        rw [List.length_append]
        omega
      · obtain ⟨body, point, rfl, stands, escape⟩ := isToken.hasSourceValue longest <| by
          rintro digits rfl numeral
          exact Nat.le_of_not_lt fun large => overlong ⟨digits, numeral, large, written⟩
        have part : decodePart child = .ok point := by
          rw [written.decodePart_eq, stands]
          rfl
        exact ⟨_, _, decodeParts_cons part decoded, .escape escape value,
          compares.cons_same overlong rfl⟩

/-- A string literal is decoded, and its characters have one value, which is that of the
result exactly if no escape is overlong. -/
theorem decodeString_gives_source_value_iff
    {quote : Char}
    {characters : List Char}
    {node : Node}
    (isQuote : quote = '\'' ∨ quote = '"')
    (divides : Divides quote characters node.namedChildren) :
    ∃ value units,
      decodeString node = .ok value ∧
        (∀ other, SourceValue quote characters other ↔ other = units) ∧
        (value.units = units ↔ ∀ child ∈ node.namedChildren, ¬ IsOverlong child) := by
  obtain ⟨text, units, decoded, sourceValue, compares⟩ := divides.compares isQuote
  refine ⟨text.joinSurrogates, units, ?_, fun other => ⟨fun valueToo => ?_, ?_⟩, ?_⟩
  · rw [decodeString, decoded]
    rfl
  · exact valueToo.unique sourceValue
  · rintro rfl
    exact sourceValue
  · rw [(Text.units_joinSurrogates text).1]
    exact compares.same_iff

/-- An escape of three octal digits whose value is beyond 377. -/
def overlongEscape : Node :=
  .ofText "escape_sequence" none "\\400" []

theorem divides_overlongEscape :
    Divides '\'' ['\\', '4', '0', '0'] [overlongEscape] := by
  have isToken : IsToken ['\\', '4', '0', '0'] := .octal (by decide) (by decide)
  have longest : IsLongest ['\\', '4', '0', '0'] [] := by
    intro longer _ begins
    simpa using begins.length_le
  exact .escape isToken longest ⟨rfl, rfl⟩ .done

/-- A string with a fragment and such an escape. -/
def overlongString : Node :=
  .ofText "string" none "'a\\400'" [.ofText "string_fragment" none "a" [], overlongEscape]

theorem divides_overlongString :
    Divides '\'' ['a', '\\', '4', '0', '0'] overlongString.namedChildren := by
  have fragment : Divides '\'' (['a'] ++ ['\\', '4', '0', '0'])
      [.ofText "string_fragment" none "a" [], overlongEscape] :=
    .fragment (by decide) (by simp [IsRaw]) (by simp [IsRaw]) rfl rfl divides_overlongEscape
  exact fragment

/-- A string with an overlong octal token, which has another value in the source. -/
theorem decodeString_gives_source_value_iff_overlongString :
    Divides '\'' ['a', '\\', '4', '0', '0'] overlongString.namedChildren ∧
      ∃ value units,
        decodeString overlongString = .ok value ∧
          (∀ other, SourceValue '\'' ['a', '\\', '4', '0', '0'] other ↔ other = units) ∧
          (value.units = units ↔
            ∀ child ∈ overlongString.namedChildren, ¬ IsOverlong child) :=
  ⟨divides_overlongString,
    decodeString_gives_source_value_iff (.inl rfl) divides_overlongString⟩

/-- The grammar reads a space and a zero where one code point is decoded. -/
theorem not_forall_decodeString_gives_source_value :
    ¬ ∀ (quote : Char) (characters : List Char) (node : Node),
      quote = '\'' ∨ quote = '"' → Divides quote characters node.namedChildren →
        ∃ value, decodeString node = .ok value ∧ SourceValue quote characters value.units := by
  intro always
  obtain ⟨value, decoded, sourceValue⟩ :=
    always '\'' ['\\', '4', '0', '0'] (.ofText "string" none "'\\400'" [overlongEscape]) (.inl rfl)
      divides_overlongEscape
  have found : decodeString (.ofText "string" none "'\\400'" [overlongEscape]) = .ok [0x100] := by
    rfl
  obtain rfl := Except.ok.inj (found.symm.trans decoded)
  have escape : EscapeValue ['4', '0'] ['0'] (0x20 : CodePoint).units :=
    .octal (.twoLarge (by decide) (by decide) (by decide)) (by decide)
  have zero : SourceValue '\'' ['0'] ((CodePoint.ofChar '0').units ++ []) :=
    .raw (by simp [IsRaw]) .done
  exact absurd (sourceValue.unique (.escape escape zero)) (by decide)

end Literal
end ComponentOutline
