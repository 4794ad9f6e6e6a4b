import ComponentOutline.Component.Descriptor

/-!
# Outlines as values

An outline is handed on as a record of plain values.
-/

namespace ComponentOutline

/-- The record of one key of an initial state. -/
def StateEntry.record (entry : StateEntry) : Value :=
  .record [(Text.ofString "name", .text entry.name), (Text.ofString "value", entry.value)]

namespace Descriptor

/-- The record of a prop. -/
def propRecord (name : String) : Value :=
  .record [(Text.ofString "name", .string name)]

mutual

/-- The record of an outline. -/
def record : Descriptor → Value
  | .mk name state props children =>
      .record [
        (Text.ofString "name", .string name),
        (Text.ofString "state", .list (state.map StateEntry.record)),
        (Text.ofString "props", .list (props.map propRecord)),
        (Text.ofString "children", .list (records children))]

/-- The records of outlines. -/
def records : List Descriptor → List Value
  | [] => []
  | child :: rest => child.record :: records rest

end

end Descriptor
end ComponentOutline
