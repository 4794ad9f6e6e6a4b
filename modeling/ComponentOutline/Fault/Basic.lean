import ComponentOutline.Fault.Report
import ComponentOutline.Text.Utf8

/-!
# Faults and failures

A fault is a cause that this library reports on its own account, in its own words:
the source is not what an outline can be made of, or a setting is unusable.  A
failure is anything that ends a computation.  Beside a fault it can be a conversion
that did not succeed, a piece of source that is not text, or a setting that is not
even of a usable sort.
-/

namespace ComponentOutline

/-- A cause that is reported with a category and a context. -/
inductive Fault where
  /-- A state initializer is not literal data. -/
  | unevaluable (kind reason : String) (line column : Nat)
  /-- A node lacks a field that its role requires. -/
  | malformedNode (kind field : String) (line : Nat)
  /-- The source has a syntax error. -/
  | invalidSyntax (grammar : String) (snippet : Option String) (line column : Nat)
  /-- The program has no statement. -/
  | emptyProgram
  /-- There is no grammar for the dialect. -/
  | unsupportedDialect (dialect : Value)
  /-- A setting has an unusable value. -/
  | invalidSetting (setting : String) (value : Value) (reason : String)
  /-- An argument is of the wrong sort. -/
  | invalidType (parameter : String) (value : Value) (expected : String)

namespace Fault

/-- The category of a fault. -/
def category : Fault → Category
  | .unevaluable .. => .unevaluableInitializer
  | .malformedNode .. => .malformedNode
  | .invalidSyntax .. => .invalidSyntax
  | .emptyProgram => .emptyProgram
  | .unsupportedDialect .. => .unsupportedDialect
  | .invalidSetting .. => .invalidConfiguration
  | .invalidType .. => .invalidType

/-- The parameters of a fault. -/
def parameters : Fault → Details
  | .unevaluable kind reason line column =>
      [("node_type", .string kind), ("reason", .string reason), ("line", .nat line),
        ("column", .nat column)]
  | .malformedNode kind field line =>
      [("node_type", .string kind), ("field", .string field), ("line", .nat line)]
  | .invalidSyntax grammar snippet line column =>
      [("message", .string "Source contains syntax errors"), ("dialect", .string grammar),
        ("code_snippet", match snippet with
          | some text => .string text
          | none => Detail.none),
        ("line", .nat line), ("column", .nat column)]
  | .emptyProgram => []
  | .unsupportedDialect dialect => [("dialect", .value dialect)]
  | .invalidSetting setting value reason =>
      [("setting", .string setting), ("value", .value value), ("reason", .string reason)]
  | .invalidType parameter value expected =>
      [("parameter", .string parameter), ("value", .value value),
        ("expected_type", .string expected)]

/-- The report of a fault. -/
def report (fault : Fault) : Report :=
  Report.assemble fault.category fault.parameters [] []

/-- The text of a fault with its context. -/
def message (fault : Fault) : Text :=
  fault.report.text

end Fault

/-- Anything that ends a computation. -/
inductive Failure where
  | fault (fault : Fault)
  /-- Text and numbers could not be converted into each other. -/
  | conversion (fault : ConversionFault)
  /-- A piece of source is not text. -/
  | undecodable (fault : Utf8.Fault)
  /-- A text cannot be written as bytes, because a surrogate stands alone in it. -/
  | unencodable (text : Text)
  /-- No declaration pattern has this name. -/
  | unknownPattern (pattern : Value)
  /-- A value of this sort cannot be gone through item by item. -/
  | notIterable (typeName : String)
  /-- A value of this sort cannot be looked up. -/
  | notLookedUp (typeName : String)
  /-- A cache cannot have the capacity that is asked for. -/
  | oversizedCapacity

namespace Failure

/-- The wording for a text that cannot be written as bytes: it names the first run of
surrogates. -/
def unencodableMessage (text : Text) : String :=
  let start := (text.takeWhile fun point => !point.isSurrogate).length
  let run := (text.drop start).takeWhile CodePoint.isSurrogate
  match run with
  | [point] =>
      "'utf-8' codec can't encode character '\\u" ++ hexDigits 4 point.val ++
        "' in position " ++ toString start ++ ": surrogates not allowed"
  | _ =>
      "'utf-8' codec can't encode characters in position " ++ toString start ++ "-" ++
        toString (start + run.length - 1) ++ ": surrogates not allowed"

/-- The text of a failure. -/
def message : Failure → String
  | .fault cause => cause.message.toDisplay
  | .conversion cause => cause.message
  | .undecodable cause => cause.message
  | .unencodable text => unencodableMessage text
  | .unknownPattern pattern => pattern.shown ++ " is not a valid ComponentPattern"
  | .notIterable typeName => "'" ++ typeName ++ "' object is not iterable"
  | .notLookedUp typeName => "unhashable type: '" ++ typeName ++ "'"
  | .oversizedCapacity => "the capacity of a cache does not fit into a word"

end Failure
end ComponentOutline
