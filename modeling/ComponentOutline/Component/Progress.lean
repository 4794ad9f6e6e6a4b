import ComponentOutline.Component.Pattern
import ComponentOutline.Literal.State
import ComponentOutline.Markup.Element

/-!
# The progress of an extraction

While a tree is walked, the outline of one component is put together.  Its name,
its state and its markup are each recorded once, and flags say which of them have
been.  The names bound around the current node are kept on a stack, the nearest
first, and what happens is logged.
-/

namespace ComponentOutline

/-- What is known in the middle of a walk. -/
structure Progress where
  descriptor : Descriptor
  nameFound : Bool
  stateFound : Bool
  markupFound : Bool
  /-- The names bound around the current node, the nearest first; `none` where the
  target of a binding is no plain name. -/
  bindings : List (Option String)
  /-- Whether the current node lies inside of the component's class. -/
  inComponent : Bool
  log : Log

namespace Progress

/-- Before the walk nothing is known. -/
def start (log : Log) : Progress :=
  { descriptor := .empty
    nameFound := false
    stateFound := false
    markupFound := false
    bindings := []
    inComponent := false
    log := log }

/-- The name bound by the nearest declaration or assignment around. -/
def enclosingBinding (progress : Progress) : Option String :=
  progress.bindings.head?.join

end Progress

/-- A step of an extraction. -/
abbrev Extracting (α : Type) := Effect Progress Failure α

namespace Extracting

/-- What a handler of an extraction leaves behind. -/
abbrev Outcome := Walk.Outcome Progress Failure

/-- A step that does not look at the progress. -/
def ofExcept {α : Type} (result : Except Failure α) : Extracting α :=
  Effect.ofExcept result

/-- A step that only writes log records. -/
def ofLogged {α : Type} (step : Logged α) : Extracting α :=
  fun progress =>
    let (result, log) := step progress.log
    (result, { progress with log := log })

@[simp] theorem ofExcept_apply {α : Type} (result : Except Failure α) (progress : Progress) :
    ofExcept result progress = (result, progress) := rfl

@[simp] theorem ofLogged_apply {α : Type} (step : Logged α) (progress : Progress) :
    ofLogged step progress =
      ((step progress.log).1, { progress with log := (step progress.log).2 }) := rfl

/-- Writes a record. -/
def write (record : LogRecord) : Extracting Unit :=
  ofLogged (Logged.write record)

/-- Writes a record about the extraction as such. -/
def note (message : String) : Extracting Unit :=
  write { level := .debug, writer := .extraction, message := message }

end Extracting

namespace Node

/-- The child under a field, which must be there and be in the source. -/
def requireField (node : Node) (field : String) : Except Failure Node :=
  match node.child? field with
  | some child =>
      if child.missing then .error (.fault (.malformedNode node.kind field node.line))
      else .ok child
  | none => .error (.fault (.malformedNode node.kind field node.line))

end Node

namespace Extracting

/-- Walks the children with the name of a target bound around them. -/
def withBinding (target : Node) : Extracting Outcome := do
  let name ←
    if target.kind == "identifier" then ofExcept (target.readText.map some) else pure none
  modify fun progress => { progress with bindings := name :: progress.bindings }
  return .descendThen
    (modify fun progress => { progress with bindings := progress.bindings.tail })

/-- A declared variable binds its name around its parts. -/
def enterDeclarator (node : Node) : Extracting Outcome := do
  let target ← ofExcept (node.requireField "name")
  withBinding target

/-- An assignment binds its target around its parts. -/
def enterAssignment (node : Node) : Extracting Outcome := do
  let target ← ofExcept (node.requireField "left")
  withBinding target

/-- Records the name of the component; an anonymous one has the empty name. -/
def recordName (pattern : Pattern) (name : Option String) : Extracting Unit := do
  modify fun progress =>
    { progress with
      nameFound := true
      descriptor := progress.descriptor.withName (name.getD "") }
  note ("Recognized " ++ pattern.name ++ " component '" ++ name.getD "" ++ "'")

/-- Records the state of an initializer. -/
def recordState (initializer : Node) : Extracting Unit := do
  let entries ← ofExcept (Literal.stateEntries initializer)
  write (Literal.stateRecord entries)
  modify fun progress =>
    { progress with
      stateFound := true
      descriptor := progress.descriptor.withState
        (entries.map fun entry => ⟨entry.1, entry.2⟩) }

/-- Records the props and the children of the root element. -/
def recordMarkup (element : Node) : Extracting Unit := do
  modify fun progress => { progress with markupFound := true }
  let props ← ofExcept (Markup.props element)
  modify fun progress =>
    { progress with descriptor := progress.descriptor.withProps props }
  let children ← ofLogged (Markup.childComponents element)
  modify fun progress =>
    { progress with descriptor := progress.descriptor.withChildren children }
  let tag ← ofExcept (Markup.tagName element)
  note ("Root element <" ++ tag.getD "" ++ "> has " ++ toString props.length ++
    " props and " ++ toString children.length ++ " child components")

/-- The first element is the root element; elements are never entered. -/
def enterElement (node : Node) : Extracting Outcome := do
  let progress ← get
  if !progress.markupFound then
    recordMarkup node
  return .prune

/-- Walks a tree for a component of a pattern. -/
def extract
    (pattern : Pattern)
    (handlers : Walk.Handlers Progress Failure)
    (root : Node) : Extracting Unit := do
  note ("Starting " ++ pattern.name ++ " component extraction")
  Walk.run handlers root
  let progress ← get
  note ("Extracted " ++ pattern.name ++ " component '" ++ progress.descriptor.name ++ "'")

end Extracting
end ComponentOutline
