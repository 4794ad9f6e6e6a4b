import ComponentOutline.Effect
import ComponentOutline.Number.Written
import ComponentOutline.Text.Quoted
import ComponentOutline.Text.Utf16
import ComponentOutline.Value.Basic

/-!
# Values as JSON

JSON has no numeral for a number that is not finite.  `Value.jsonSafe` puts the name
of such a number in its place and changes nothing else.

`Value.writeJson` writes a value over several lines, two blanks for each level, in
ASCII alone.  It fails at a number that cannot be written, and what was written
before stays written.
-/

namespace ComponentOutline

namespace Binary64

/-- The name of a number that is not finite. -/
def jsonName? : Binary64 → Option String
  | .nan => some "NaN"
  | .infinite false => some "Infinity"
  | .infinite true => some "-Infinity"
  | .finite .. => none

end Binary64

namespace Value

mutual

/-- A value with names in place of the numbers that are not finite. -/
def jsonSafe : Value → Value
  | .number (.float value) =>
      match value.jsonName? with
      | some name => .string name
      | none => .number (.float value)
  | .list items => .list (jsonSafeItems items)
  | .record entries => .record (jsonSafeEntries entries)
  | value => value

/-- Items with names in place of the numbers that are not finite. -/
def jsonSafeItems : List Value → List Value
  | [] => []
  | item :: rest => item.jsonSafe :: jsonSafeItems rest

/-- Entries with names in place of the numbers that are not finite. -/
def jsonSafeEntries : List (Text × Value) → List (Text × Value)
  | [] => []
  | (key, value) :: rest => (key, value.jsonSafe) :: jsonSafeEntries rest

end

end Value

namespace CodeUnit

/-- A code unit inside of a JSON string. -/
def jsonEscaped (unit : CodeUnit) : String :=
  if unit.val = 34 then "\\\""
  else if unit.val = 92 then "\\\\"
  else if unit.val = 10 then "\\n"
  else if unit.val = 13 then "\\r"
  else if unit.val = 9 then "\\t"
  else if unit.val = 12 then "\\f"
  else if unit.val = 8 then "\\b"
  else if 32 ≤ unit.val && unit.val ≤ 126 then String.ofList [Char.ofNat unit.val]
  else "\\u" ++ hexDigits 4 unit.val

end CodeUnit

namespace Text

/-- A text as a JSON string. -/
def jsonQuoted (text : Text) : String :=
  "\"" ++ String.join (text.units.map CodeUnit.jsonEscaped) ++ "\""

end Text

/-- A step that writes text and may fail. -/
abbrev Writing (α : Type) := Effect String ConversionFault α

namespace Writing

/-- Writes a piece of text. -/
def put (text : String) : Writing Unit :=
  modify (· ++ text)

end Writing

namespace Number

/-- The numeral of a number, if it has one that can be written. -/
def jsonNumeral : Number → Except ConversionFault String
  | .whole value => writeInteger value
  | .float value => if value.isFinite then .ok value.toText else .error .notFinite

end Number

namespace Value

/-- A line end and the blanks of a level. -/
def jsonBreak (level : Nat) : String :=
  String.ofList ('\n' :: List.replicate (2 * level) ' ')

mutual

/-- Writes a value at a level.  What is pending before a plain value is written
together with it. -/
def writeJson (level : Nat) (pending : String) : Value → Writing Unit
  | .null => Writing.put (pending ++ "null")
  | .bool value => Writing.put (pending ++ if value then "true" else "false")
  | .number value => do
      let numeral ← Effect.ofExcept value.jsonNumeral
      Writing.put (pending ++ numeral)
  | .text value => Writing.put (pending ++ value.jsonQuoted)
  | .list [] => Writing.put (pending ++ "[]")
  | .list (item :: rest) => do
      Writing.put pending
      writeItems (level + 1) "[" (item :: rest)
      Writing.put (jsonBreak level ++ "]")
  | .record [] => Writing.put (pending ++ "\x7b\x7d")
  | .record (entry :: rest) => do
      Writing.put pending
      writeEntries (level + 1) "\x7b" (entry :: rest)
      Writing.put (jsonBreak level ++ "\x7d")

/-- Writes items, a mark before each. -/
def writeItems (level : Nat) (mark : String) : List Value → Writing Unit
  | [] => pure ()
  | item :: rest => do
      writeJson level (mark ++ jsonBreak level) item
      writeItems level "," rest

/-- Writes entries, a mark before each. -/
def writeEntries (level : Nat) (mark : String) : List (Text × Value) → Writing Unit
  | [] => pure ()
  | (key, value) :: rest => do
      Writing.put (mark ++ jsonBreak level ++ key.jsonQuoted ++ ": ")
      writeJson level "" value
      writeEntries level "," rest

end

/-- Writes a value: the outcome and what was written. -/
def json (value : Value) : Except ConversionFault Unit × String :=
  value.writeJson 0 "" ""

end Value
end ComponentOutline
