import ComponentOutline.Component.Descriptor
import ComponentOutline.Literal.Strings
import ComponentOutline.Log
import ComponentOutline.Markup.Tag
import ComponentOutline.Syntax.Walk

/-!
# Rendered elements

An element has a tag and attributes on its opening tag, and elements inside of it.
The components rendered by an element are found by looking through plain markup: a
component inside of HTML tags belongs to the nearest component around it.
-/

namespace ComponentOutline

/-- A computation that writes log records and may fail. -/
abbrev Logged (α : Type) := Effect Log Failure α

namespace Logged

/-- Writes a record. -/
def write (record : LogRecord) : Logged Unit :=
  modify fun log => log ++ [record]

end Logged

namespace Markup

/-- Whether a node is an element that closes itself. -/
def isSelfClosing (node : Node) : Bool :=
  node.kind == "jsx_self_closing_element"

/-- Whether a node is an element. -/
def isElement (node : Node) : Bool :=
  node.kind == "jsx_element" || isSelfClosing node

/-- The node that holds the tag and the attributes of an element. -/
def openingTag (element : Node) : Node :=
  if isSelfClosing element then element
  else
    match element.child? "open_tag" with
    | some opening => opening
    | none =>
        (element.namedChildren.find? fun child => child.kind == "jsx_opening_element").getD
          element

/-- The tag of an element, dots and colons included; a fragment has none. -/
def tagName (element : Node) : Except Failure (Option String) :=
  match (openingTag element).child? "name" with
  | none => .ok none
  | some name => name.readText.map some

/-- The node that names the prop of a child of the opening tag; a spread has none. -/
def propNode? (child : Node) : Option Node :=
  if child.kind == "jsx_attribute" then child.namedChildren.head? else none

/-- The names of the props of an element, in source order. -/
def props (element : Node) : Except Failure (List String) :=
  ((openingTag element).namedChildren.filterMap propNode?).mapM Node.readText

/-- The record of a component found inside of an element. -/
def foundRecord (tag : String) : LogRecord :=
  { level := .debug
    writer := .markup
    message := "Found child component <" ++ tag ++ ">" }

mutual

/-- The components rendered by an element. -/
def childComponents : Node → Logged (List Descriptor)
  | .mk label children =>
      if isSelfClosing (.mk label children) then pure []
      else componentsIn children

/-- The components rendered by the elements among these nodes. -/
def componentsIn : List Node → Logged (List Descriptor)
  | [] => pure []
  | child :: rest =>
      if child.named && isElement child then do
        let tag ← Effect.ofExcept (tagName child)
        if isMarkupTag tag then
          let inner ← childComponents child
          let others ← componentsIn rest
          return inner ++ others
        else
          let name := tag.getD ""
          Logged.write (foundRecord name)
          let ownProps ← Effect.ofExcept (props child)
          let inner ← childComponents child
          let others ← componentsIn rest
          return .mk name [] ownProps inner :: others
      else componentsIn rest

end

end Markup
end ComponentOutline
