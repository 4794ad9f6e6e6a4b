import ComponentOutline.Number.Numeral

/-!
# Tokens of arguments

The arguments of an action are literal data: numbers, quoted texts and bytes, a few
words, and marks that put them together.  Line ends count only outside of all
brackets, where they end the arguments; a backslash takes a line end away, and a number
sign starts a remark up to the end of the line.  Nothing may stand before the first
token of a line outside of brackets.
-/

namespace ComponentOutline
namespace Argument

/-- The sorts of numbers. -/
inductive NumberSort where
  /-- A whole number; the flag says whether a floating-point number is near it. -/
  | whole (fits : Bool)
  | decimal
  | imaginary
  deriving DecidableEq

/-- The smallest parts of arguments. -/
inductive Token where
  | number (sort : NumberSort)
  /-- A quoted text, or quoted bytes. -/
  | quoted (bytes : Bool)
  | name (name : String)
  | ellipsis
  /-- A bracket, a comma, a colon or a sign. -/
  | mark (character : Char)
  | lineEnd
  deriving DecidableEq

/-- Whether a character can stand in a name. -/
def isNamePart (character : Char) : Bool :=
  character.isAlphanum || character = '_' || 128 ≤ character.toNat

/-! ## Numbers -/

/-- Whether a text starts with a digit. -/
def startsWithDigit : List Char → Bool
  | [] => false
  | character :: _ => character.isDigit

/-- Splits off a point and the digits behind it; the flag says whether there is one. -/
def splitPlaces? : List Char → Option (Bool × List Char)
  | [] => some (false, [])
  | character :: rest =>
      if character = '.' then
        if startsWithDigit rest then
          (Numeral.scanDigits 10 false rest).map fun (_, rest) => (true, rest)
        else some (true, rest)
      else some (false, character :: rest)

/-- Splits off a power of ten; the flag says whether there is one. -/
def splitPower? : List Char → Option (Bool × List Char)
  | [] => some (false, [])
  | character :: rest =>
      if character = 'e' || character = 'E' then
        (Numeral.scanDigits 10 false (Numeral.splitSign rest).2).map fun (_, rest) => (true, rest)
      else some (false, character :: rest)

/-- Splits off the mark of an imaginary number; the flag says whether there is one. -/
def splitUnit : List Char → Bool × List Char
  | [] => (false, [])
  | character :: rest =>
      if character = 'j' || character = 'J' then (true, rest) else (false, character :: rest)

/-- The sort of a whole number. -/
def wholeSort (value : Nat) : NumberSort :=
  .whole (Binary64.ofDecimal false value 0).isFinite

/-- The sort of a decimal whole number, which starts with a zero only if it is zero and
has no more digits than are read. -/
def decimalWhole? (digits : List Nat) : Option NumberSort :=
  let value := Numeral.positional 10 digits
  if digits.head? = some 0 then
    if value = 0 then some (wholeSort 0) else none
  else if digitLimit < digits.length then none
  else some (wholeSort value)

/-- Splits off a decimal number. -/
def splitDecimal? (text : List Char) : Option (NumberSort × List Char) := do
  let (digits, rest) ←
    if startsWithDigit text then Numeral.scanDigits 10 false text else some ([], text)
  let (places, rest) ← splitPlaces? rest
  let (power, rest) ← splitPower? rest
  let (unit, rest) := splitUnit rest
  if unit then some (.imaginary, rest)
  else if places || power then some (.decimal, rest)
  else (decimalWhole? digits).map fun sort => (sort, rest)

/-- Splits off a number of a base with a mark. -/
def splitMarked? (base : Nat) (text : List Char) : Option (NumberSort × List Char) :=
  (Numeral.scanDigits base false (Numeral.dropUnderscore text)).map fun (digits, rest) =>
    (wholeSort (Numeral.positional base digits), rest)

/-- The base that a letter after a zero announces. -/
def markedBase? (letter : Char) : Option Nat :=
  if letter = 'x' || letter = 'X' then some 16
  else if letter = 'o' || letter = 'O' then some 8
  else if letter = 'b' || letter = 'B' then some 2
  else none

/-- Splits off a number of any sort. -/
def splitUnended? : List Char → Option (NumberSort × List Char)
  | '0' :: letter :: rest =>
      match markedBase? letter with
      | some base => splitMarked? base rest
      | none => splitDecimal? ('0' :: letter :: rest)
  | text => splitDecimal? text

/-- Splits off a number, which no part of a name may follow. -/
def splitNumber? (text : List Char) : Option (Token × List Char) := do
  let (sort, rest) ← splitUnended? text
  match rest with
  | [] => some (.number sort, rest)
  | next :: _ => if isNamePart next then none else some (.number sort, rest)

/-! ## Quoted texts and bytes -/

/-- Whether a character is a quote. -/
def isQuote (character : Char) : Bool :=
  character.toNat = 0x22 || character.toNat = 0x27

/-- How the inside of quotes is read. -/
structure Quoting where
  bytes : Bool
  /-- Whether a backslash stands for itself. -/
  raw : Bool

/-- What the letters before a quote say. -/
def quotingOf? (letters : List Char) : Option Quoting :=
  match String.ofList (letters.map Char.toLower) with
  | "" | "u" => some ⟨false, false⟩
  | "r" => some ⟨false, true⟩
  | "b" => some ⟨true, false⟩
  | "br" | "rb" => some ⟨true, true⟩
  | _ => none

/-- Splits off what stands before the next single quote on the same line. -/
def splitLine? (quote : Char) : List Char → Option (List Char × List Char)
  | [] => none
  | character :: rest =>
      if character = quote then some ([], rest)
      else if character = '\n' then none
      else if character = '\\' then
        match rest with
        | [] => none
        | next :: rest =>
            (splitLine? quote rest).map fun (inside, rest) => (character :: next :: inside, rest)
      else (splitLine? quote rest).map fun (inside, rest) => (character :: inside, rest)

/-- Splits off what stands before the next three quotes. -/
def splitLines? (quote : Char) : List Char → Option (List Char × List Char)
  | [] => none
  | character :: rest =>
      if character = quote && [quote, quote].isPrefixOf rest then some ([], rest.drop 2)
      else if character = '\\' then
        match rest with
        | [] => none
        | next :: rest =>
            (splitLines? quote rest).map fun (inside, rest) => (character :: next :: inside, rest)
      else (splitLines? quote rest).map fun (inside, rest) => (character :: inside, rest)

/-- The value of the first hexadecimal digits of a text, if there are so many. -/
def hexValue? (count : Nat) (text : List Char) : Option Nat :=
  let digits := (text.take count).filterMap (Numeral.digitOf? 16)
  if digits.length = count then some (Numeral.positional 16 digits) else none

/-- Whether a text starts with the name of a code point in braces: letters, digits,
blanks and dashes. -/
def startsWithCharacterName : List Char → Bool
  | [] => false
  | brace :: rest =>
      let name := rest.takeWhile fun character => character != '\x7d'
      brace = '\x7b' && name.length < rest.length && !name.isEmpty &&
        name.all fun character => character.isAlphanum || character = ' ' || character = '-'

/-- Whether what follows a backslash and a letter is what the letter calls for. -/
def isEscape (bytes : Bool) (letter : Char) (rest : List Char) : Bool :=
  if letter = 'x' then (hexValue? 2 rest).isSome
  else if bytes then true
  else if letter = 'u' then (hexValue? 4 rest).isSome
  else if letter = 'U' then (hexValue? 8 rest).any (· < 0x110000)
  else if letter = 'N' then startsWithCharacterName rest
  else true

/-- Whether all escapes inside of quotes can be read. -/
def areEscapes (bytes : Bool) : List Char → Bool
  | '\\' :: letter :: rest => isEscape bytes letter rest && areEscapes bytes rest
  | _ :: rest => areEscapes bytes rest
  | [] => true

/-- Whether what stands inside of quotes can be read. -/
def isReadable (quoting : Quoting) (inside : List Char) : Bool :=
  (!quoting.bytes || inside.all fun character => character.toNat < 128) &&
    (quoting.raw || areEscapes quoting.bytes inside)

/-- Splits off what stands behind a quote. -/
def splitInside? (quote : Char) (text : List Char) : Option (List Char × List Char) :=
  if [quote, quote].isPrefixOf text then splitLines? quote (text.drop 2)
  else splitLine? quote text

/-- Splits off quotes with the letters before them; `none` if there is no quote behind
letters. -/
def splitQuoted? (text : List Char) : Option (Option (Token × List Char)) :=
  let letters := (text.takeWhile Char.isAlpha).take 3
  match text.drop letters.length, quotingOf? letters with
  | quote :: rest, some quoting =>
      if isQuote quote then
        some do
          let (inside, rest) ← splitInside? quote rest
          if isReadable quoting inside then some (.quoted quoting.bytes, rest) else none
      else none
  | _, _ => none

/-! ## Words and marks -/

/-- Splits off a name. -/
def splitName? (text : List Char) : Option (Token × List Char) :=
  match text.takeWhile isNamePart with
  | [] => none
  | name => some (.name (String.ofList name), text.drop name.length)

/-- The marks of arguments. -/
def marks : List Char :=
  ['(', ')', '\x7b', '\x7d', ',', ':', '+', '-']

/-- Splits off any token but a line end. -/
def splitToken? : List Char → Option (Token × List Char)
  | [] => none
  | character :: rest =>
      if character.isDigit || (character = '.' && startsWithDigit rest) then
        splitNumber? (character :: rest)
      else if marks.contains character then some (.mark character, rest)
      else if character = '.' then
        if ['.', '.'].isPrefixOf rest then some (.ellipsis, rest.drop 2) else none
      else (splitQuoted? (character :: rest)).getD (splitName? (character :: rest))

/-! ## Lines -/

/-- Where the reading of tokens stands. -/
inductive Place where
  /-- Before the first token of a line outside of brackets, behind so many blanks; the
  flag says whether a line before it was indented and goes on here. -/
  | lineStart (column : Nat) (indented : Bool)
  /-- In a line, inside of so many brackets. -/
  | inLine (depth : Nat)

/-- The start of a line. -/
def Place.fresh : Place :=
  .lineStart 0 false

/-- The place after a blank or a tab. -/
def Place.afterBlank (character : Char) : Place → Place
  | .inLine depth => .inLine depth
  | .lineStart column indented =>
      if character = ' ' then .lineStart (column + 1) indented
      else if character = '\t' then .lineStart ((column / 8 + 1) * 8) indented
      else .lineStart 0 indented

/-- The place after a backslash and a line end. -/
def Place.afterBackslash : Place → Place
  | .inLine depth => .inLine depth
  | .lineStart column indented => .lineStart column (indented || 0 < column)

/-- The place after a line end, and the token that it counts as. -/
def Place.afterLineEnd : Place → Place × List Token
  | .inLine 0 => (.fresh, [.lineEnd])
  | .inLine depth => (.inLine depth, [])
  | .lineStart _ _ => (.fresh, [])

/-- The most brackets that can be open. -/
def depthLimit : Nat := 200

/-- The depth after a token. -/
def depthAfter? (depth : Nat) : Token → Option Nat
  | .mark character =>
      if character = '(' || character = '\x7b' then
        if depth < depthLimit then some (depth + 1) else none
      else if character = ')' || character = '\x7d' then some (depth - 1)
      else some depth
  | _ => some depth

/-- The place after a token; an indented line has none. -/
def Place.afterToken? (token : Token) : Place → Option Place
  | .inLine depth => (depthAfter? depth token).map .inLine
  | .lineStart column indented =>
      if 0 < column || indented then none else (depthAfter? 0 token).map .inLine

/-- Whether a character is a blank between tokens: the plain blank, the tab and the form
feed. -/
def isGap (character : Char) : Bool :=
  character = ' ' || character = '\t' || character.toNat = 12

/-- The tokens of a text from a place on; `none` if part of it is no token. -/
def tokensFrom? (place : Place) (text : List Char) : Option (List Token) :=
  match text with
  | [] => some []
  | character :: rest =>
      if isGap character then tokensFrom? (place.afterBlank character) rest
      else if character = '\n' then
        let (next, added) := place.afterLineEnd
        (tokensFrom? next rest).map (added ++ ·)
      else if character = '#' then
        have := (List.dropWhile_sublist (fun character => character != '\n') (l := rest)).length_le
        tokensFrom? place (rest.dropWhile fun character => character != '\n')
      else if character = '\\' then
        match rest with
        | '\n' :: next :: after => tokensFrom? place.afterBackslash (next :: after)
        | _ => none
      else
        match splitToken? (character :: rest) with
        | none => none
        | some (token, after) =>
            if after.length < rest.length + 1 then
              (place.afterToken? token).bind fun next =>
                (tokensFrom? next after).map (token :: ·)
            else none
termination_by text.length
decreasing_by all_goals (simp_all only [List.length_cons] <;> omega)

/-- A text with all line ends of one sort. -/
def withLineEnds : List Char → List Char
  | [] => []
  | '\r' :: '\n' :: rest => '\n' :: withLineEnds rest
  | character :: rest =>
      (if character = '\r' then '\n' else character) :: withLineEnds rest

/-- The tokens of a text. -/
def tokens? (text : List Char) : Option (List Token) :=
  tokensFrom? .fresh (withLineEnds text)

end Argument
end ComponentOutline
