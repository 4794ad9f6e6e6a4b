import ComponentOutline.Fault.Category
import ComponentOutline.Value.Shown

/-!
# Reports

A report is a fault as it is told: a message, and a context of further details that
is appended to it.  The context starts with what the caller hands over, then come
the parameters that the category repeats, then the caller's further details; a
detail without a value is left out, and a name that is present keeps its place.

A caller may hand over a record, or pairs of names and values: in a list of pairs a pair
is anything that has two items, also a text of two characters.
-/

namespace ComponentOutline

/-- A piece of information about a fault: a value, or a fixed row of values such as
a position. -/
inductive Detail where
  | value (value : Value)
  | row (items : List Value)

namespace Detail

/-- No information. -/
def none : Detail :=
  .value .null

/-- Whether there is information. -/
def isPresent : Detail → Bool
  | .value .null => false
  | _ => true

/-- A text as a detail. -/
def text (content : Text) : Detail :=
  .value (.text content)

/-- A string as a detail. -/
def string (content : String) : Detail :=
  text (Text.ofString content)

/-- A natural number as a detail. -/
def nat (number : Nat) : Detail :=
  .value (Value.int number)

/-- A row of values as text. -/
def shownRow : List Value → String
  | [item] => "(" ++ item.shown ++ ",)"
  | items => "(" ++ ", ".intercalate (items.map Value.shown) ++ ")"

/-- A detail as text; rows stand in round brackets. -/
def plain : Detail → Text
  | .value single => single.plain
  | .row items => Text.ofString (shownRow items)

/-- The name of the sort of a detail. -/
def typeName : Detail → String
  | .value single => single.typeName
  | .row _ => "tuple"

end Detail

/-- Details by name. -/
abbrev Details := Entries String Detail

namespace Details

/-- The detail of a name, or none. -/
def lookup (details : Details) (name : String) : Detail :=
  (details.get? name).getD Detail.none

end Details

/-! ## Contexts -/

/-- The name of a detail in a context.  Most names are texts, but any value that can be
looked up can be one. -/
structure ContextName where
  value : Value

namespace ContextName

/-- A text as a name. -/
def ofString (name : String) : ContextName :=
  ⟨.string name⟩

/-- A number that a value counts as, if it does: a truth value counts as 0 or 1. -/
def number? : Value → Option Number
  | .bool value => some (.whole (if value then 1 else 0))
  | .number (.float value) =>
      some (match value.toInt? with
        | some whole => .whole whole
        | none => .float value)
  | .number value => some value
  | _ => none

/-- Whether two names are the same: texts by their code points, and numbers of all sorts
by what they are worth. -/
def same (first second : ContextName) : Bool :=
  match first.value, second.value with
  | .null, .null => true
  | .text one, .text other => one == other
  | one, other => (number? one).isSome && number? one == number? other

instance : BEq ContextName :=
  ⟨same⟩

end ContextName

/-- The details of a context in order. -/
abbrev Context := Entries ContextName Detail

namespace Context

/-- Adds the details that are present. -/
def addPresent (added : List (String × Detail)) (context : Context) : Context :=
  context.insertAll ((added.filter fun entry => entry.2.isPresent).map fun entry =>
    (ContextName.ofString entry.1, entry.2))

end Context

/-- Why a fault cannot be reported. -/
inductive ReportFault where
  /-- What is said about it does not fit its category. -/
  | misfit
  /-- The sort that was expected has no name. -/
  | namelessSort
  /-- An item of the context is no pair. -/
  | notPair (index length : Nat)
  deriving DecidableEq

/-- The wording for a fault that cannot be reported. -/
def ReportFault.message : ReportFault → String
  | .misfit => "the arguments do not fit the category"
  | .namelessSort => "the expected sort has no name"
  | .notPair index length =>
      "dictionary update sequence element #" ++ toString index ++ " has length " ++
        toString length ++ "; 2 is required"

namespace Context

/-- The items of a value, if it has items. -/
def itemsOf? : Value → Option (List Value)
  | .list items => some items
  | .text characters => some (characters.map fun character => .text [character])
  | .record entries => some (entries.map fun entry => .text entry.1)
  | _ => none

/-- The pair that an item of a context is. -/
def pairOf (index : Nat) (item : Value) : Except ReportFault (ContextName × Detail) :=
  match itemsOf? item with
  | none => .error .misfit
  | some [name, value] => if name.isKey then .ok (⟨name⟩, .value value) else .error .misfit
  | some items => .error (.notPair index items.length)

/-- The context of pairs, counted from an index on. -/
def ofPairs (index : Nat) (context : Context) : List Value → Except ReportFault Context
  | [] => .ok context
  | item :: rest => do
      let (name, detail) ← pairOf index item
      ofPairs (index + 1) (context.insert name detail) rest

/-- The context that a value is; one that counts as absent is empty. -/
def ofValue (value : Value) : Except ReportFault Context :=
  if !value.isTruthy then .ok []
  else
    match value with
    | .record entries =>
        .ok (entries.map fun entry => (⟨.text entry.1⟩, .value entry.2))
    | _ =>
        match itemsOf? value with
        | some items => ofPairs 0 [] items
        | none => .error .misfit

end Context

/-! ## Reports -/

/-- A fault as it is told. -/
structure Report where
  category : Category
  message : Detail
  context : Context
  /-- The parameters of the fault. -/
  attributes : Details

namespace Report

/-- The details of a context as text. -/
def contextText (context : Context) : Text :=
  List.intercalate (Text.ofString ", ") (context.map fun entry =>
    entry.1.value.plain ++ Text.ofString "=" ++ entry.2.plain)

/-- The text of a report: the message, and the context in square brackets. -/
def text (report : Report) : Text :=
  if report.context.isEmpty then report.message.plain
  else
    report.message.plain ++ Text.ofString " [Context: " ++ contextText report.context ++
      Text.ofString "]"

/-- The text of a report, which has to be there: a message on its own has to be text. -/
def tell (report : Report) : Except ReportFault Text :=
  match report.context, report.message with
  | [], .value (.text _) => .ok report.text
  | [], _ => .error .misfit
  | _ :: _, _ => .ok report.text

/-- Adds a detail to the context, under a name that can be looked up. -/
def addContext (name : Value) (detail : Detail) (report : Report) :
    Except ReportFault Report :=
  if name.isKey then .ok { report with context := report.context.insert ⟨name⟩ detail }
  else .error .misfit

/-- The message of a category's faults. -/
def messageOf (category : Category) (parameters : Details) : Detail :=
  let parameter (name : String) : Text := (parameters.lookup name).plain
  let words (text : String) : Text := Text.ofString text
  match category with
  | .invalidType =>
      .text (words "Invalid type for parameter '" ++ parameter "parameter" ++ words "': " ++
        words (parameters.lookup "value").typeName ++ words ". Expected: " ++
        parameter "expected_type")
  | .invalidConfiguration =>
      .text (words "Invalid configuration setting '" ++ parameter "setting" ++ words "': " ++
        parameter "value" ++ words ". Reason: " ++ parameter "reason")
  | .unsupportedDialect =>
      .text (words "Unsupported dialect: '" ++ parameter "dialect" ++ words "'")
  | .emptyProgram => .string "Empty AST input: program has no top-level statements"
  | .malformedNode =>
      .text (words "Node of type '" ++ parameter "node_type" ++
        words "' is missing required field '" ++ parameter "field" ++ words "'")
  | .unevaluableInitializer =>
      .text (words "Cannot evaluate '" ++ parameter "node_type" ++
        words "' as literal state: " ++ parameter "reason")
  | _ => parameters.lookup "message"

/-- The position of a syntax error, when both its line and its column are known. -/
def positionOf (parameters : Details) : Detail :=
  match parameters.lookup "line", parameters.lookup "column" with
  | .value line, .value column =>
      if (Detail.value line).isPresent && (Detail.value column).isPresent then
        .row [line, column]
      else Detail.none
  | _, _ => Detail.none

/-- The parameters of a category together with those that follow from them. -/
def complete (category : Category) (parameters : Details) : Details :=
  match category with
  | .invalidType => parameters.insert "expected" (parameters.lookup "expected_type")
  | .invalidSyntax => parameters.insert "position" (positionOf parameters)
  | _ => parameters

/-- The report of a fault with these parameters, on top of a context and with further
details. -/
def assemble (category : Category) (parameters : Details) (context : Context)
    (further : Details) : Report :=
  let known := complete category parameters
  let repeated := category.contextual.map fun name => (name, known.lookup name)
  { category := category
    message := messageOf category parameters
    context := (context.addPresent repeated).addPresent further
    attributes := category.attributes.map fun name => (name, known.lookup name) }

/-- Gives parameters that stand in order their names; `none` if there are too many. -/
def bindInOrder : List String → List Detail → Option Details
  | _, [] => some []
  | [], _ :: _ => none
  | name :: names, detail :: details =>
      (bindInOrder names details).map ((name, detail) :: ·)

/-- Adds what is given by name to the parameters or to the further details; `none` if
a parameter is given twice. -/
def bindByName (category : Category) :
    List (String × Detail) → Details × Details → Option (Details × Details)
  | [], bound => some bound
  | (name, detail) :: rest, (parameters, extras) =>
      if (category.required ++ category.optional ++ category.byNameOnly).contains name then
        if (parameters.get? name).isSome then none
        else bindByName category rest (parameters.insert name detail, extras)
      else bindByName category rest (parameters, extras.insert name detail)

/-- The parameters and the further details that a caller gives; `none` if a parameter is
missing or given twice. -/
def bind? (category : Category) (inOrder : List Detail) (byName : List (String × Detail)) :
    Option (Details × Details) := do
  let parameters ← bindInOrder (category.required ++ category.optional) inOrder
  let (parameters, extras) ← bindByName category (Entries.insertAll byName []) (parameters, [])
  if category.required.all fun name => (parameters.get? name).isSome then
    some (parameters, extras)
  else none

/-- Whether parameters name the sort that was expected, where a category asks for it. -/
def namesSort (category : Category) (parameters : Details) : Bool :=
  match category, parameters.lookup "expected_type" with
  | .invalidType, .value (.text _) => true
  | .invalidType, _ => false
  | _, _ => true

/-- Reports a fault from what a caller says about it. -/
def build (category : Category) (inOrder : List Detail) (byName : List (String × Detail)) :
    Except ReportFault Report :=
  match bind? category inOrder byName with
  | none => .error .misfit
  | some (parameters, extras) =>
      if (extras.get? "self").isSome then .error .misfit
      else if !namesSort category parameters then .error .namelessSort
      else if category.reserved.any fun name => (extras.get? name).isSome then .error .misfit
      else
        let given := match extras.lookup "context" with
          | .value value => Context.ofValue value
          | .row _ => .error .misfit
        given.map fun context =>
          assemble category parameters context
            (extras.filter fun entry => entry.1 != "context")

end Report
end ComponentOutline
