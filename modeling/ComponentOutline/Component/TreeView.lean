import ComponentOutline.Component.Descriptor
import ComponentOutline.Console.Printer
import ComponentOutline.Value.Shown

/-!
# Outlines as trees

An outline is shown as a tree: below the name come the props on one line, the keys of
the initial state with their values, and the components inside.  Values are escaped;
names go into the labels as they are, so that a bracket in a name counts as a tag.
-/

namespace ComponentOutline

open Console

/-- The label of one key of an initial state. -/
def StateEntry.label (printer : Printer) (entry : StateEntry) : Text :=
  Text.ofString "[magenta]state[/magenta] " ++ entry.name ++ Text.ofString " = " ++
    printer.escape (Text.ofString entry.value.shown)

namespace Descriptor

/-- The label of a component that is shown on its own. -/
def title (name : String) : Text :=
  Text.ofString <|
    "[bold green]" ++ (if name = "" then "[dim](anonymous)[/dim]" else name) ++ "[/bold green]"

/-- The label of a component inside of another one. -/
def childLabel (name : String) : Text :=
  Text.ofString ("[bold]<" ++ name ++ ">[/bold]")

/-- The entry for the props, if there are any. -/
def propsEntry : List String → List Tree
  | [] => []
  | names => [.mk (Text.ofString ("[cyan]props:[/cyan] " ++ ", ".intercalate names)) []]

section

variable (printer : Printer)

mutual

/-- The entries below the label of an outline. -/
def entries : Descriptor → List Tree
  | .mk _ state props children =>
      propsEntry props ++ (state.map fun entry => Tree.mk (entry.label printer) []) ++
        childEntries children

/-- The entries for the components inside. -/
def childEntries : List Descriptor → List Tree
  | [] => []
  | child :: rest => .mk (childLabel child.name) (entries child) :: childEntries rest

end

/-- The tree that shows an outline. -/
def tree (descriptor : Descriptor) : Tree :=
  .mk (title descriptor.name) (descriptor.entries printer)

end

/-- Whether every state value in an outline can be written. -/
def isWritable (descriptor : Descriptor) : Bool :=
  (descriptor :: descriptor.descendants).all fun component =>
    component.state.all fun entry => entry.value.isWritable

end Descriptor
end ComponentOutline
