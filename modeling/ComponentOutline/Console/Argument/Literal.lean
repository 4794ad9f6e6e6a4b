import ComponentOutline.Console.Argument.Token
import ComponentOutline.Text.CodePoint

/-!
# Literal arguments

Arguments are literal data: numbers with a sign or as a sum of a real and an imaginary
part, quoted texts one after the other, the words for truth values and for nothing, an
ellipsis, and rows, sets and tables of such data.  What is in a set, or is a key of a
table, must not be changeable, as sets and tables are.

Brackets are read from the inside: once a bracket is closed, what it holds is one
operand of what stands around it.
-/

namespace ComponentOutline
namespace Argument

/-- What is known about an operand. -/
inductive Operand where
  /-- A number without a sign. -/
  | number (sort : NumberSort)
  /-- A number with a sign. -/
  | signed (sort : NumberSort)
  /-- Quoted text or bytes, to which more may be joined. -/
  | quoted (bytes : Bool)
  /-- Any other data; the flag says whether it is unchangeable. -/
  | data (fixed : Bool)
  /-- The empty pair of round brackets. -/
  | emptyRow
  /-- The name that makes an empty set when the empty pair of brackets follows. -/
  | maker
  deriving DecidableEq

namespace Operand

/-- Whether an operand is unchangeable data; `none` if it is no data. -/
def isFixed? : Operand → Option Bool
  | .data fixed => some fixed
  | .maker => none
  | _ => some true

/-- An operand in round brackets. -/
def bracketed : Operand → Operand
  | .quoted _ => .data true
  | .emptyRow => .data true
  | operand => operand

end Operand

/-- A part of what stands in a bracket. -/
inductive Part where
  | operand (operand : Operand)
  /-- A comma, a colon or a sign. -/
  | mark (character : Char)
  deriving DecidableEq

/-! ## Words -/

/-- The letter that a character is a form of, among those of the word `set`. -/
def letterOf (character : Char) : Char :=
  if formsOfS.contains character.toNat then 's'
  else if formsOfE.contains character.toNat then 'e'
  else if formsOfT.contains character.toNat then 't'
  else character
where
  /-- The other forms of `s`. -/
  formsOfS : List Nat :=
    [0x17F, 0x2E2, 0x209B, 0xFF53, 0x1D42C, 0x1D460, 0x1D494, 0x1D4C8, 0x1D4FC, 0x1D530,
      0x1D564, 0x1D598, 0x1D5CC, 0x1D600, 0x1D634, 0x1D668, 0x1D69C]
  /-- The other forms of `e`. -/
  formsOfE : List Nat :=
    [0x1D49, 0x2091, 0x212F, 0x2147, 0xFF45, 0x1D41E, 0x1D452, 0x1D486, 0x1D4EE, 0x1D522,
      0x1D556, 0x1D58A, 0x1D5BE, 0x1D5F2, 0x1D626, 0x1D65A, 0x1D68E]
  /-- The other forms of `t`. -/
  formsOfT : List Nat :=
    [0x1D57, 0x209C, 0xFF54, 0x1D42D, 0x1D461, 0x1D495, 0x1D4C9, 0x1D4FD, 0x1D531, 0x1D565,
      0x1D599, 0x1D5CD, 0x1D601, 0x1D635, 0x1D669, 0x1D69D]

/-- The operand that a name is. -/
def ofName? (name : String) : Option Operand :=
  if name == "True" || name == "False" || name == "None" then some (.data true)
  else if name.toList.map letterOf = ['s', 'e', 't'] then some .maker
  else none

/-! ## Operands side by side -/

/-- Whether a character is a sign. -/
def isSign (character : Char) : Bool :=
  character = '+' || character = '-'

/-- Joins quoted texts that follow one another; text and bytes do not mix. -/
def joinQuoted? (bytes : Bool) : List Part → Option (Operand × List Part)
  | .operand (.quoted other) :: rest =>
      if other = bytes then joinQuoted? bytes rest else none
  | rest => some (.quoted bytes, rest)

/-- Splits off an operand. -/
def splitOperand? : List Part → Option (Operand × List Part)
  | .operand .maker :: .operand .emptyRow :: rest => some (.data false, rest)
  | .operand (.quoted bytes) :: rest => joinQuoted? bytes rest
  | .operand operand :: rest => some (operand, rest)
  | _ => none

/-- Splits off an operand that may have a sign. -/
def splitSigned? : List Part → Option (Operand × List Part)
  | .mark character :: rest => do
      if isSign character then
        match ← splitOperand? rest with
        | (.number sort, rest) => some (.signed sort, rest)
        | _ => none
      else none
  | parts => splitOperand? parts

/-- The sum of a real and an imaginary part. -/
def sum? (real imaginary : Operand) : Option Operand :=
  match real, imaginary with
  | .number (.whole true), .number .imaginary => some (.data true)
  | .signed (.whole true), .number .imaginary => some (.data true)
  | .number .decimal, .number .imaginary => some (.data true)
  | .signed .decimal, .number .imaginary => some (.data true)
  | _, _ => none

/-- The operand that parts without commas and colons are. -/
def single? (parts : List Part) : Option Operand := do
  match ← splitSigned? parts with
  | (operand, []) => some operand
  | (real, .mark character :: rest) =>
      if isSign character then
        match ← splitOperand? rest with
        | (imaginary, []) => sum? real imaginary
        | _ => none
      else none
  | _ => none

/-! ## Rows, sets and tables -/

/-- Parts divided at a mark. -/
def divide (character : Char) (parts : List Part) : List (List Part) :=
  parts.splitOn (.mark character)

/-- Drops what stands behind the last comma, if that is nothing. -/
def dropLastEmpty (members : List (List Part)) : List (List Part) :=
  if members.getLast? = some [] then members.dropLast else members

/-- Whether all members are unchangeable; `none` if one is no data. -/
def areFixed? (members : List (List Part)) : Option Bool := do
  let fixed ← members.mapM fun member => (single? member).bind Operand.isFixed?
  some (fixed.all id)

/-- What round brackets, or no brackets, hold. -/
def row? (parts : List Part) : Option Operand :=
  match divide ',' parts with
  | [member] => single? member
  | members => (areFixed? (dropLastEmpty members)).map .data

/-- Whether parts are an entry of a table: a key that is unchangeable, a colon and data. -/
def isEntry (parts : List Part) : Bool :=
  match divide ':' parts with
  | [key, value] =>
      (single? key).bind Operand.isFixed? = some true &&
        ((single? value).bind Operand.isFixed?).isSome
  | _ => false

/-- What curly brackets hold. -/
def collection? (parts : List Part) : Option Operand :=
  let members := dropLastEmpty (divide ',' parts)
  if parts.isEmpty || (!members.isEmpty && members.all isEntry) then some (.data false)
  else if !members.isEmpty && areFixed? members = some true then some (.data false)
  else none

/-- What a closed bracket is. -/
def closed? (opening closing : Char) (parts : List Part) : Option Operand :=
  if opening = '(' && closing = ')' then
    if parts.isEmpty then some .emptyRow else (row? parts).map Operand.bracketed
  else if opening = '\x7b' && closing = '\x7d' then collection? parts
  else none

/-! ## Brackets inside of brackets -/

/-- What stands so far in the brackets that are open, the innermost first; the parts of
each are in reverse. -/
abbrev Pending := List (Char × List Part)

/-- Adds a part to the innermost bracket, or to what stands outside of all. -/
def add (part : Part) (outside : List Part) : Pending → List Part × Pending
  | [] => (part :: outside, [])
  | (opening, parts) :: pending => (outside, (opening, part :: parts) :: pending)

/-- Reads tokens: what stands outside of all brackets, in reverse, and what comes after
the end of the line. -/
def read? (outside : List Part) (pending : Pending) : List Token → Option (List Part)
  | [] => if pending.isEmpty then some outside.reverse else none
  | .lineEnd :: rest =>
      if pending.isEmpty && rest.isEmpty then some outside.reverse else none
  | .mark character :: rest =>
      if character = '(' || character = '\x7b' then
        read? outside ((character, []) :: pending) rest
      else if character = ')' || character = '\x7d' then
        match pending with
        | [] => none
        | (opening, parts) :: pending =>
            match closed? opening character parts.reverse with
            | none => none
            | some operand =>
                let (outside, pending) := add (.operand operand) outside pending
                read? outside pending rest
      else
        let (outside, pending) := add (.mark character) outside pending
        read? outside pending rest
  | token :: rest =>
      match operandOf? token with
      | none => none
      | some operand =>
          let (outside, pending) := add (.operand operand) outside pending
          read? outside pending rest
where
  /-- The operand that a token is on its own. -/
  operandOf? : Token → Option Operand
    | .number sort => some (.number sort)
    | .quoted bytes => some (.quoted bytes)
    | .ellipsis => some (.data true)
    | .name name => ofName? name
    | _ => none

/-- Whether a text is literal data. -/
def isLiteral (text : Text) : Bool :=
  match text.toString? with
  | none => false
  | some string =>
      if string.toList.contains (Char.ofNat 0) then false
      else
        match (tokens? string.toList).bind (read? [] []) with
        | none => false
        | some parts => ((row? parts).bind Operand.isFixed?).isSome

end Argument
end ComponentOutline
