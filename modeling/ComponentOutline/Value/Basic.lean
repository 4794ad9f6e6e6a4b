import ComponentOutline.Number.Numeral
import ComponentOutline.Text.CodePoint
import ComponentOutline.Value.Entries

/-!
# Plain values

A value is what a literal denotes and what a setting holds: nothing, a truth
value, a number, a text, a list, or a record with its keys in order.
-/

namespace ComponentOutline

/-- A plain value. -/
inductive Value where
  | null
  | bool (value : Bool)
  | number (value : Number)
  | text (value : Text)
  | list (items : List Value)
  | record (entries : List (Text × Value))
  deriving Inhabited

namespace Value

/-- What holds of a list if it holds of its items, and of a record if it holds of its
values, holds of every value. -/
@[elab_as_elim]
theorem induction
    {motive : Value → Prop}
    (null : motive .null)
    (bool : ∀ value, motive (.bool value))
    (number : ∀ value, motive (.number value))
    (text : ∀ value, motive (.text value))
    (list : ∀ items, (∀ item ∈ items, motive item) → motive (.list items))
    (record : ∀ entries, (∀ entry ∈ entries, motive entry.2) → motive (.record entries))
    (value : Value) :
    motive value :=
  value.rec (motive_1 := motive) (motive_2 := fun items => ∀ item ∈ items, motive item)
    (motive_3 := fun entries => ∀ entry ∈ entries, motive entry.2)
    (motive_4 := fun entry => motive entry.2)
    null bool number text list record
    (List.forall_mem_nil _) (fun _ _ first others => List.forall_mem_cons.2 ⟨first, others⟩)
    (List.forall_mem_nil _) (fun _ _ first others => List.forall_mem_cons.2 ⟨first, others⟩)
    (fun _ _ inner => inner)

/-- The value of a whole number. -/
def int (value : Int) : Value :=
  .number (.whole value)

/-- The value of a string. -/
def string (value : String) : Value :=
  .text (Text.ofString value)

/-- Whether a value counts as present where a choice falls back on another: nothing,
`false`, zero and whatever is empty do not. -/
def isTruthy : Value → Bool
  | .null => false
  | .bool value => value
  | .number (.whole value) => value ≠ 0
  | .number (.float (.finite _ significand _)) => significand ≠ 0
  | .number (.float _) => true
  | .text value => !value.isEmpty
  | .list items => !items.isEmpty
  | .record entries => !entries.isEmpty

/-- The name of the sort of a value. -/
def typeName : Value → String
  | .null => "NoneType"
  | .bool _ => "bool"
  | .number (.whole _) => "int"
  | .number (.float _) => "float"
  | .text _ => "str"
  | .list _ => "list"
  | .record _ => "dict"

/-- Whether a value can be looked up by its content; lists and records cannot. -/
def isKey : Value → Bool
  | .list _ => false
  | .record _ => false
  | _ => true

end Value
end ComponentOutline
