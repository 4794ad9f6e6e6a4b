import ComponentOutline.Fault.Basic

/-!
# Declaration patterns

A component is declared either by a call of a factory or by a class.
-/

namespace ComponentOutline

/-- The ways to declare a component. -/
inductive Pattern where
  | factoryCall
  | classDeclaration
  deriving DecidableEq

namespace Pattern

/-- The name of a pattern. -/
def name : Pattern → String
  | .factoryCall => "factory"
  | .classDeclaration => "class"

/-- The other pattern. -/
def other : Pattern → Pattern
  | .factoryCall => .classDeclaration
  | .classDeclaration => .factoryCall

/-- The pattern that a value names. -/
def ofValue (value : Value) : Except Failure Pattern :=
  match value with
  | .text text =>
      if text = Text.ofString "factory" then .ok .factoryCall
      else if text = Text.ofString "class" then .ok .classDeclaration
      else .error (.unknownPattern value)
  | _ => .error (.unknownPattern value)

end Pattern
end ComponentOutline
