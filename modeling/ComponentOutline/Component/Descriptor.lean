import ComponentOutline.Value.Basic

/-!
# Component descriptors

The outline of a component: its name, its initial state, the props of its root
element and the components rendered inside of it, each again with an outline.
-/

namespace ComponentOutline

/-- One key of an initial state. -/
structure StateEntry where
  name : Text
  value : Value

/-- The outline of a component. -/
inductive Descriptor where
  | mk (name : String) (state : List StateEntry) (props : List String)
      (children : List Descriptor)
  deriving Inhabited

namespace Descriptor

/-- The name of a component; it is empty for an anonymous one. -/
def name : Descriptor → String
  | .mk name _ _ _ => name

/-- The initial state, in the order of declaration. -/
def state : Descriptor → List StateEntry
  | .mk _ state _ _ => state

/-- The names of the props, in source order. -/
def props : Descriptor → List String
  | .mk _ _ props _ => props

/-- The components rendered inside. -/
def children : Descriptor → List Descriptor
  | .mk _ _ _ children => children

/-- The outline of which nothing is known. -/
def empty : Descriptor :=
  .mk "" [] [] []

/-- The same outline with another name. -/
def withName (name : String) : Descriptor → Descriptor
  | .mk _ state props children => .mk name state props children

/-- The same outline with another state. -/
def withState (state : List StateEntry) : Descriptor → Descriptor
  | .mk name _ props children => .mk name state props children

/-- The same outline with other props. -/
def withProps (props : List String) : Descriptor → Descriptor
  | .mk name state _ children => .mk name state props children

/-- The same outline with other children. -/
def withChildren (children : List Descriptor) : Descriptor → Descriptor
  | .mk name state props _ => .mk name state props children

/-- The initial state as a record. -/
def stateRecord (descriptor : Descriptor) : Value :=
  .record (Entries.insertAll (descriptor.state.map fun entry => (entry.name, entry.value)) [])

mutual

/-- The first descendant with a name: a component comes before those inside of it,
and these come before its later siblings. -/
def findChild (name : String) : Descriptor → Option Descriptor
  | .mk _ _ _ children => findIn name children

/-- The first component with a name among these and their descendants. -/
def findIn (name : String) : List Descriptor → Option Descriptor
  | [] => none
  | child :: rest =>
      if child.name == name then some child
      else
        match findChild name child with
        | some found => some found
        | none => findIn name rest

end

mutual

/-- All strict descendants, each before its own. -/
def descendants : Descriptor → List Descriptor
  | .mk _ _ _ children => preorderAll children

/-- These components and all their descendants, each before its own. -/
def preorderAll : List Descriptor → List Descriptor
  | [] => []
  | child :: rest => child :: (descendants child ++ preorderAll rest)

end

end Descriptor
end ComponentOutline
