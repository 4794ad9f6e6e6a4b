import ComponentOutline.Component.Progress
import ComponentOutline.Settings

/-!
# Components declared by a class

A class that extends a base component declares a component.  The first such class is
the component; its state is the first assignment to `this.state` or field `state`
inside of it, and its markup is the first element inside of it.  Classes inside of
classes are not looked into.
-/

namespace ComponentOutline

/-- What counts as a base component. -/
structure ClassOptions where
  bases : List Text

namespace ClassOptions

/-- The options from what a caller gives and, where that is empty, the settings. -/
def ofValue (bases : Value) (settings : Settings) : Except Failure ClassOptions := do
  let chosen :=
    if bases.isTruthy then bases
    else settings.lookup "extraction" "base_components" (.list [.string "Component"])
  let names ← chosen.names
  return ⟨names⟩

end ClassOptions

namespace Class

/-- The expression that a class extends.  It stands right in the heritage of the
class, or as the value of an `extends` clause there. -/
def superclass (node : Node) : Except Failure (Option Node) :=
  match node.namedChildren.find? fun child => child.kind == "class_heritage" with
  | none => .ok none
  | some heritage =>
      match heritage.contents.find? fun clause => clause.kind == "extends_clause" with
      | some clause => (clause.requireField "value").map some
      | none =>
          match heritage.contents.head? with
          | some clause =>
              if clause.kind == "implements_clause" then .ok none else .ok (some clause)
          | none => .ok none

/-- Whether a class extends a base component, by its own name or as a member. -/
def isComponent (options : ClassOptions) (node : Node) : Except Failure Bool := do
  match ← superclass node with
  | none => return false
  | some base =>
      if base.kind == "member_expression" then
        match base.child? "property" with
        | some property =>
            let name ← property.readText
            return options.bases.contains (Text.ofString name)
        | none => return false
      else
        let name ← base.readText
        return options.bases.contains (Text.ofString name)

/-- Whether an expression is `this.state`. -/
def isThisState (target : Node) : Except Failure Bool :=
  if target.kind == "member_expression" then
    match target.child? "object", target.child? "property" with
    | some object, some property =>
        if object.kind == "this" then property.readText.map (· == "state")
        else .ok false
    | _, _ => .ok false
  else .ok false

/-- The name that a component class has.  A class without a name is named after the
binding around it. -/
def nameOf (node : Node) (binding : Option String) : Except Failure (Option String) :=
  if node.kind == "class_declaration" then do
    let name ← node.requireField "name"
    name.readText.map some
  else
    match node.child? "name" with
    | some name => name.readText.map some
    | none => .ok binding

/-- The first component class is entered, every other class is skipped. -/
def enterClass (options : ClassOptions) (node : Node) : Extracting Extracting.Outcome := do
  let progress ← get
  if progress.nameFound then return .prune
  let recognized ← Extracting.ofExcept (isComponent options node)
  if !recognized then return .prune
  let name ← Extracting.ofExcept (nameOf node progress.enclosingBinding)
  Extracting.recordName .classDeclaration name
  modify fun progress => { progress with inComponent := true }
  return .descendThen (modify fun progress => { progress with inComponent := false })

/-- An assignment to `this.state` inside of the component gives the state. -/
def enterAssignment (node : Node) : Extracting Extracting.Outcome := do
  let target ← Extracting.ofExcept (node.requireField "left")
  let progress ← get
  if progress.inComponent && !progress.stateFound then
    let isState ← Extracting.ofExcept (isThisState target)
    if isState then
      let initializer ← Extracting.ofExcept (node.requireField "right")
      Extracting.recordState initializer
  Extracting.enterAssignment node

/-- The name node of a field. -/
def fieldName? (node : Node) : Option Node :=
  match node.child? "property" with
  | some property => some property
  | none => node.child? "name"

/-- A field `state` inside of the component gives the state. -/
def enterField (node : Node) : Extracting Extracting.Outcome := do
  let progress ← get
  if progress.inComponent && !progress.stateFound then
    match node.child? "value", fieldName? node with
    | some value, some nameNode =>
        let name ← Extracting.ofExcept nameNode.readText
        if name == "state" then
          Extracting.recordState value
    | _, _ => pure ()
  return .descend

/-- The first element inside of the component is the root element. -/
def enterElement (node : Node) : Extracting Extracting.Outcome := do
  let progress ← get
  if progress.inComponent then Extracting.enterElement node
  else return .prune

/-- The handlers of the class pattern. -/
def handlers (options : ClassOptions) : Walk.Handlers Progress Failure
  | "class_declaration" => some (enterClass options)
  | "class" => some (enterClass options)
  | "variable_declarator" => some Extracting.enterDeclarator
  | "assignment_expression" => some enterAssignment
  | "field_definition" => some enterField
  | "public_field_definition" => some enterField
  | "jsx_element" => some enterElement
  | "jsx_self_closing_element" => some enterElement
  | _ => none

/-- Walks a tree for a component that a class declares. -/
def extract (options : ClassOptions) (root : Node) : Extracting Unit :=
  Extracting.extract .classDeclaration (handlers options) root

end Class
end ComponentOutline
