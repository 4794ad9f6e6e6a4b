import ComponentOutline.Component.Progress
import ComponentOutline.Settings

/-!
# Components declared by a factory call

`var Foo = React.createClass({...})` declares a component.  It is named after the
binding around the first factory call, its state is what the state supplier of the
call's configuration object returns, and its markup is the first element in the
tree.
-/

namespace ComponentOutline

/-- What counts as a factory, and which member supplies the state. -/
structure FactoryOptions where
  callees : List Text
  supplier : Value

namespace FactoryOptions

/-- The options from what a caller gives and, where that is empty, the settings. -/
def ofValues (callees supplier : Value) (settings : Settings) :
    Except Failure FactoryOptions := do
  let chosen :=
    if callees.isTruthy then callees
    else
      settings.lookup "extraction" "factory_callees" (.list [.string "createClass"])
  let names ← chosen.names
  return {
    callees := names
    supplier :=
      if supplier.isTruthy then supplier
      else settings.lookup "extraction" "state_supplier" (.string "getInitialState") }

end FactoryOptions

namespace Factory

/-- The kinds of nodes that a state supplier can be. -/
def isFunction (node : Node) : Bool :=
  ["function_expression", "function", "arrow_function", "method_definition"].contains node.kind

/-- The name of a member's key; a computed key has none. -/
def keyName (key : Option Node) : Except Failure (Option Text) :=
  match key with
  | none => .ok none
  | some key =>
      if key.kind == "string" then (Literal.decodeString key).map some
      else if key.kind == "property_identifier" then
        key.readText.map fun name => some (Text.ofString name)
      else .ok none

/-- Whether a key has the name that a value asks for; no value asks for no name. -/
def isKeyed (name : Option Text) (wanted : Value) : Bool :=
  match name, wanted with
  | some name, .text wanted => name == wanted
  | none, .null => true
  | _, _ => false

/-- The first argument of a call that is no comment. -/
def firstArgument? (call : Node) : Option Node :=
  match call.child? "arguments" with
  | some arguments =>
      if arguments.kind == "arguments" then arguments.contents.head? else none
  | none => none

/-- The expression that a state supplier returns. -/
def returnedExpression (function : Node) : Except Failure Node :=
  if !isFunction function then
    .error (function.reject "state supplier must be a function")
  else do
    let body ← function.requireField "body"
    if body.kind != "statement_block" then return body
    match body.namedChildren.find? fun statement => statement.kind == "return_statement" with
    | some statement =>
        match statement.contents.head? with
        | some value => return value
        | none => throw (.fault (.malformedNode "return_statement" "argument" statement.line))
    | none => throw (.fault (.malformedNode function.kind "return" function.line))

/-- Whether a call is that of a factory. -/
def isFactoryCall (options : FactoryOptions) (call : Node) : Except Failure Bool := do
  let callee ← call.requireField "function"
  if callee.kind == "member_expression" then
    match callee.child? "property" with
    | some property =>
        let name ← property.readText
        return options.callees.contains (Text.ofString name)
    | none => return false
  else if callee.kind == "identifier" then
    let name ← callee.readText
    return options.callees.contains (Text.ofString name)
  else return false

/-- The state supplier among the members of a configuration object: the value of the
first pair, or the first method, whose key has the supplier's name. -/
def supplier? (options : FactoryOptions) : List Node → Except Failure (Option Node)
  | [] => .ok none
  | member :: rest =>
      if member.kind == "pair" then do
        let name ← keyName (member.child? "key")
        if isKeyed name options.supplier then
          (member.requireField "value").map some
        else supplier? options rest
      else if member.kind == "method_definition" then do
        let name ← keyName (member.child? "name")
        if isKeyed name options.supplier then .ok (some member)
        else supplier? options rest
      else supplier? options rest

/-- Records the state that the supplier of a configuration object returns. -/
def readSupplier (options : FactoryOptions) (object : Node) : Extracting Unit := do
  let supplier ← Extracting.ofExcept (supplier? options object.namedChildren)
  match supplier with
  | none => pure ()
  | some function =>
      let progress ← get
      if !progress.stateFound then
        let initializer ← Extracting.ofExcept (returnedExpression function)
        Extracting.recordState initializer

/-- The first factory call is the component. -/
def enterCall (options : FactoryOptions) (node : Node) : Extracting Extracting.Outcome := do
  let progress ← get
  if !progress.nameFound then
    let recognized ← Extracting.ofExcept (isFactoryCall options node)
    if recognized then
      Extracting.recordName .factoryCall progress.enclosingBinding
      match firstArgument? node with
      | some object =>
          if object.kind == "object" then readSupplier options object
          else Extracting.write (unconfigured node)
      | none => Extracting.write (unconfigured node)
  return .descend
where
  /-- The record of a factory call without a configuration object. -/
  unconfigured (node : Node) : LogRecord :=
    { level := .warning
      writer := .factory
      message := "Factory call at line " ++ toString node.line ++
        " has no configuration object" }

/-- The handlers of the factory pattern. -/
def handlers (options : FactoryOptions) : Walk.Handlers Progress Failure
  | "variable_declarator" => some Extracting.enterDeclarator
  | "assignment_expression" => some Extracting.enterAssignment
  | "call_expression" => some (enterCall options)
  | "jsx_element" => some Extracting.enterElement
  | "jsx_self_closing_element" => some Extracting.enterElement
  | _ => none

/-- Walks a tree for a component that a factory call declares. -/
def extract (options : FactoryOptions) (root : Node) : Extracting Unit :=
  Extracting.extract .factoryCall (handlers options) root

end Factory
end ComponentOutline
