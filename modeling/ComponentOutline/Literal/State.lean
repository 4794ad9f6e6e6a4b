import ComponentOutline.Component.Descriptor
import ComponentOutline.Literal.Evaluate
import ComponentOutline.Log
import ComponentOutline.Value.Shown

/-!
# State initializers

The initial state of a component is an object literal, possibly inside of brackets
and type annotations.  Its entries are the state, in order.
-/

namespace ComponentOutline
namespace Literal

mutual

/-- The expression inside of all wrappers.  A wrapper gives way to its first named
child, whatever that is. -/
def unwrap : Node → Node
  | .mk label children =>
      if isWrapper label.kind then
        (unwrapFirst children).getD (.mk label children)
      else .mk label children

/-- The first named child without its wrappers. -/
def unwrapFirst : List Node → Option Node
  | [] => none
  | child :: rest => if child.named then some (unwrap child) else unwrapFirst rest

end

/-- The entries of a state initializer. -/
def stateEntries (node : Node) : Except Failure (List (Text × Value)) :=
  let object := unwrap node
  if object.kind == "object" then evaluateMembers object.children []
  else .error (object.reject "state initializer must be an object literal")

/-- The record that a state with these entries leaves in the log. -/
def stateRecord (entries : List (Text × Value)) : LogRecord :=
  { level := .debug
    writer := .initializer
    message := "Evaluated state initializer with keys " ++
      (Value.list (entries.map fun entry => .text entry.1)).shown }

/-- The state of an initializer. -/
def componentState (node : Node) : Except Failure (List StateEntry) :=
  (stateEntries node).map fun entries => entries.map fun entry => ⟨entry.1, entry.2⟩

end Literal
end ComponentOutline
