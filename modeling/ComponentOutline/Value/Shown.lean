import ComponentOutline.Number.Written
import ComponentOutline.Text.Quoted
import ComponentOutline.Value.Basic

/-!
# Values as text

Inside of another value a text stands in quotes; on its own it is shown as it is.
-/

namespace ComponentOutline

namespace Number

/-- A number as text. -/
def shown : Number → String
  | .whole value => toString value
  | .float value => value.toText

end Number

namespace Value

mutual

/-- A value as text, texts in quotes. -/
def shown : Value → String
  | .null => "None"
  | .bool value => if value then "True" else "False"
  | .number value => value.shown
  | .text value => value.quoted
  | .list items => "[" ++ ", ".intercalate (shownItems items) ++ "]"
  | .record entries => "\x7b" ++ ", ".intercalate (shownEntries entries) ++ "\x7d"

/-- The items of a list as text. -/
def shownItems : List Value → List String
  | [] => []
  | item :: rest => item.shown :: shownItems rest

/-- The entries of a record as text. -/
def shownEntries : List (Text × Value) → List String
  | [] => []
  | (key, value) :: rest => (key.quoted ++ ": " ++ value.shown) :: shownEntries rest

end

/-- A value as text, a text without quotes. -/
def plain : Value → Text
  | .text value => value
  | value => Text.ofString value.shown

mutual

/-- Whether every integer in a value is short enough to be written. -/
def isWritable : Value → Bool
  | .number (.whole value) => (writeInteger value).isOk
  | .list items => areWritable items
  | .record entries => entriesWritable entries
  | _ => true

/-- Whether every integer in these values is short enough to be written. -/
def areWritable : List Value → Bool
  | [] => true
  | item :: rest => item.isWritable && areWritable rest

/-- Whether every integer in these entries is short enough to be written. -/
def entriesWritable : List (Text × Value) → Bool
  | [] => true
  | (_, value) :: rest => value.isWritable && entriesWritable rest

end

end Value
end ComponentOutline
