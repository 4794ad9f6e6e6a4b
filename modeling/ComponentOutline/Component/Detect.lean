import ComponentOutline.Component.Pattern
import ComponentOutline.Syntax.Node

/-!
# Guessing the pattern

A program probably declares its component by a class if one of its statements is a
class declaration or a default export, and by a factory call otherwise.
-/

namespace ComponentOutline
namespace Node

/-- The statements of a program: its named children without comments. -/
def statements (root : Node) : List Node :=
  root.namedChildren.filter fun child =>
    !(child.kind == "comment" || child.kind == "hash_bang_line")

/-- Whether a statement exports a default. -/
def isDefaultExport (statement : Node) : Bool :=
  statement.kind == "export_statement" &&
    statement.children.any fun child => child.kind == "default"

/-- Whether a statement declares a class. -/
def isClassDeclaration (statement : Node) : Bool :=
  statement.kind == "class_declaration" || statement.kind == "abstract_class_declaration"

/-- Whether a program has a statement that declares a class or exports a default. -/
def hasDeclaration (root : Node) : Bool :=
  root.statements.any fun statement =>
    statement.isClassDeclaration || statement.isDefaultExport

/-- The pattern that a program most likely uses. -/
def detectPattern (root : Node) : Pattern :=
  if root.hasDeclaration then .classDeclaration else .factoryCall

end Node
end ComponentOutline
