/-!
# Text as a sequence of code points

The escapes of a string literal can name any code point, a lone surrogate
included, and a `String` holds none of those.  Decoded text is therefore a list
of code points.  Names and messages that are known to be free of surrogates stay
`String`s.
-/

namespace ComponentOutline

/-- A Unicode code point, surrogates included. -/
abbrev CodePoint := Fin 0x110000

/-- A sequence of code points, which may hold surrogates anywhere. -/
abbrev Text := List CodePoint

namespace CodePoint

/-- The code point of a character. -/
def ofChar (character : Char) : CodePoint :=
  ⟨character.val.toNat, by
    have valid := character.valid
    unfold UInt32.isValidChar Nat.isValidChar at valid
    omega⟩

/-- Either half of a surrogate pair. -/
def isSurrogate (point : CodePoint) : Bool :=
  0xD800 ≤ point.val && point.val < 0xE000

/-- The character of a code point that is no surrogate. -/
def toChar? (point : CodePoint) : Option Char :=
  if point.isSurrogate then none else some (Char.ofNat point.val)

/-- No character is a surrogate. -/
theorem isSurrogate_ofChar (character : Char) : (ofChar character).isSurrogate = false := by
  have valid := character.valid
  unfold UInt32.isValidChar Nat.isValidChar at valid
  rw [Bool.eq_false_iff, isSurrogate, ne_eq, Bool.and_eq_true, decide_eq_true_eq,
    decide_eq_true_eq]
  change ¬ (0xD800 ≤ character.val.toNat ∧ character.val.toNat < 0xE000)
  omega

theorem toChar?_ofChar (character : Char) : (ofChar character).toChar? = some character := by
  rw [toChar?, isSurrogate_ofChar, if_neg Bool.false_ne_true]
  exact congrArg some (Char.ofNat_toNat character)

end CodePoint

namespace Text

/-- The code points of a string. -/
def ofString (string : String) : Text :=
  string.toList.map CodePoint.ofChar

/-- The string of a text without surrogates. -/
def toString? (text : Text) : Option String :=
  (text.mapM CodePoint.toChar?).map String.ofList

theorem toString?_ofString (string : String) : (ofString string).toString? = some string := by
  have each : CodePoint.toChar? ∘ CodePoint.ofChar = some := funext CodePoint.toChar?_ofChar
  have read : string.toList.mapM (some : Char → Option Char) = some string.toList := by
    induction string.toList with
    | nil => rfl
    | cons character rest inductionHypothesis =>
        rw [List.mapM_cons, inductionHypothesis]
        rfl
  rw [toString?, ofString, List.mapM_map, each, read]
  exact congrArg some String.ofList_toList

/-- The text as a string, a replacement character standing for each surrogate. -/
def toDisplay (text : Text) : String :=
  String.ofList (text.map fun point => point.toChar?.getD '\uFFFD')

end Text
end ComponentOutline
