import ComponentOutline.Literal.Numbers
import ComponentOutline.Literal.Strings

/-!
# The value of a literal expression

An expression is literal data when it is an object, an array, a string, a number,
one of the constants, or a signed number, at any depth; brackets and type
annotations around it do not matter, and comments are passed over.  Its value is
found by recursion on the syntax tree, and anything else is rejected at the first
node, in the order of evaluation, that is no literal.
-/

namespace ComponentOutline
namespace Literal

/-- The kinds that stand for the expression inside of them. -/
def isWrapper (kind : String) : Bool :=
  kind == "parenthesized_expression" || kind == "as_expression" ||
    kind == "satisfies_expression"

/-- The value of a name that is a constant. -/
def constant? (name : String) : Option Value :=
  if name == "undefined" then some .null
  else if name == "NaN" then some (.number (.float .nan))
  else if name == "Infinity" then some (.number (.float (.infinite false)))
  else none

/-- The key that a number denotes: the decimal numeral of a whole number, and the
text of any other. -/
def numberKey (number : Number) : Except ConversionFault Text :=
  let whole? : Option Int :=
    match number with
    | .whole value => some value
    | .float value => value.toInt?
  match whole?, number with
  | some value, _ => (writeInteger value).map Text.ofString
  | none, .float value => .ok (Text.ofString value.toText)
  | none, .whole value => (writeInteger value).map Text.ofString

/-- The key that a property is stored under. -/
def propertyKey (key : Node) : Except Failure Text :=
  if key.kind == "property_identifier" then do
    let name ← key.readText
    return Text.ofString name
  else if key.kind == "string" then decodeString key
  else if key.kind == "number" then do
    let text ← key.readText
    let number ← (readNumber text).mapError Failure.conversion
    (numberKey number).mapError .conversion
  else .error (key.reject "only identifier, string and number keys are literal")

/-- The sign that an operator puts on a number; `none` if it is no sign. -/
def signOf? (operator : String) : Option (Number → Number) :=
  if operator == "-" then some Number.negate
  else if operator == "+" then some id
  else none

/-- The sign of a signed expression; whatever is not a sign with an operand is
rejected. -/
def readSign (node : Node) : Except Failure (Number → Number) :=
  let rejected := node.reject "only numeric sign operators are literal"
  match node.child? "operator", node.child? "argument" with
  | some operator, some _ => do
      let text ← operator.readText
      match signOf? text with
      | some sign => .ok sign
      | none => .error rejected
  | _, _ => .error rejected

/-- Puts a sign on a value; only numbers take one. -/
def applySign (node : Node) (sign : Number → Number) : Value → Except Failure Value
  | .number number => .ok (.number (sign number))
  | _ => .error (node.reject "sign operators only apply to numbers")

/-- The value of an expression that has no parts to evaluate. -/
def evaluateAtom (node : Node) : Except Failure Value :=
  match node.kind with
  | "string" => (decodeString node).map .text
  | "number" => do
      let text ← node.readText
      let number ← (readNumber text).mapError Failure.conversion
      return .number number
  | "true" => .ok (.bool true)
  | "false" => .ok (.bool false)
  | "null" | "undefined" => .ok .null
  | "identifier" => do
      let name ← node.readText
      match constant? name with
      | some value => .ok value
      | none => .error (node.reject s!"reference to binding '{name}'")
  | "template_string" => .error (node.reject "template strings are not literal")
  | _ => .error (node.reject "expression is not literal data")

mutual

/-- The value of a literal expression. -/
def evaluate : Node → Except Failure Value
  | .mk label children =>
      let node := Node.mk label children
      if label.kind == "object" then
        (evaluateMembers children []).map .record
      else if label.kind == "array" then
        (evaluateItems children).map .list
      else if label.kind == "unary_expression" then do
        let sign ← readSign node
        let value ← evaluateField node "argument" children
        applySign node sign value
      else if isWrapper label.kind then evaluateInner node children
      else evaluateAtom node

/-- Adds the members of an object to the entries read so far.  Comments are passed
over, and every other named child has to be a complete key and value. -/
def evaluateMembers :
    List Node → List (Text × Value) → Except Failure (List (Text × Value))
  | [], entries => .ok entries
  | .mk label children :: rest, entries =>
      let member := Node.mk label children
      if !label.named || label.kind == "comment" then evaluateMembers rest entries
      else if label.kind != "pair" then
        .error (member.reject "only key/value pairs are literal")
      else
        match member.child? "key", member.child? "value" with
        | some key, some _ => do
            let value ← evaluateField member "value" children
            let name ← propertyKey key
            evaluateMembers rest (Entries.insert name value entries)
        | _, _ => .error (member.reject "incomplete property")

/-- The values of the named children that are no comments. -/
def evaluateItems : List Node → Except Failure (List Value)
  | [] => .ok []
  | item :: rest =>
      if !item.named || item.isComment then evaluateItems rest
      else do
        let value ← evaluate item
        let values ← evaluateItems rest
        return value :: values

/-- The value of the first named child that is no comment. -/
def evaluateInner (node : Node) : List Node → Except Failure Value
  | [] => .error (node.reject "empty expression")
  | child :: rest =>
      if !child.named || child.isComment then evaluateInner node rest
      else evaluate child

/-- The value of the first child under a field. -/
def evaluateField (node : Node) (field : String) : List Node → Except Failure Value
  | [] => .error (node.reject "incomplete property")
  | child :: rest =>
      if child.label.field == some field then evaluate child
      else evaluateField node field rest

end

end Literal
end ComponentOutline
