/-!
# Categories of faults

Every fault belongs to a category, and the categories form a tree: a fault of a
category is also one of every category above it.  A category says which parameters
describe its faults, which of them are repeated in the context, and which further
names a caller cannot give a detail.
-/

namespace ComponentOutline

/-- The categories of faults. -/
inductive Category where
  | any
  | validation
  | invalidType
  | configuration
  | invalidConfiguration
  | unsupportedDialect
  | parse
  | invalidSyntax
  | emptyProgram
  | navigation
  | malformedNode
  | extraction
  | unevaluableInitializer
  deriving DecidableEq

namespace Category

/-- All categories. -/
def all : List Category :=
  [.any, .validation, .invalidType, .configuration, .invalidConfiguration, .unsupportedDialect,
    .parse, .invalidSyntax, .emptyProgram, .navigation, .malformedNode, .extraction,
    .unevaluableInitializer]

/-- The name of a category. -/
def name : Category → String
  | .any => "ReactParserError"
  | .validation => "ValidationError"
  | .invalidType => "InvalidTypeError"
  | .configuration => "ConfigurationError"
  | .invalidConfiguration => "InvalidConfigurationError"
  | .unsupportedDialect => "UnsupportedDialectError"
  | .parse => "ParseError"
  | .invalidSyntax => "InvalidSyntaxError"
  | .emptyProgram => "EmptyProgramError"
  | .navigation => "ASTNavigationError"
  | .malformedNode => "MalformedNodeError"
  | .extraction => "ExtractionError"
  | .unevaluableInitializer => "UnevaluableInitializerError"

/-- The category with a name. -/
def ofName? (name : String) : Option Category :=
  all.find? fun category => category.name == name

/-- A category and all categories above it, the widest last. -/
def lineage : Category → List Category
  | .any => [.any]
  | .invalidType => [.invalidType, .validation, .any]
  | .invalidConfiguration => [.invalidConfiguration, .configuration, .any]
  | .invalidSyntax => [.invalidSyntax, .parse, .any]
  | .emptyProgram => [.emptyProgram, .parse, .any]
  | .malformedNode => [.malformedNode, .navigation, .any]
  | .unevaluableInitializer => [.unevaluableInitializer, .extraction, .any]
  | category => [category, .any]

/-- The parameters that a fault must be described by, in order. -/
def required : Category → List String
  | .invalidType => ["parameter", "value", "expected_type"]
  | .invalidConfiguration => ["setting", "value", "reason"]
  | .unsupportedDialect => ["dialect"]
  | .invalidSyntax => ["message", "dialect"]
  | .emptyProgram => []
  | .malformedNode => ["node_type", "field"]
  | .unevaluableInitializer => ["node_type", "reason"]
  | _ => ["message"]

/-- The further parameters that may follow them, in order. -/
def optional : Category → List String
  | .validation => ["parameter", "value", "expected"]
  | .parse => ["code_snippet", "position"]
  | .invalidSyntax => ["code_snippet", "line", "column"]
  | .malformedNode => ["line"]
  | .unevaluableInitializer => ["line", "column"]
  | _ => []

/-- The parameters that can be given by name alone. -/
def byNameOnly : Category → List String
  | .emptyProgram => ["code_snippet", "position"]
  | _ => []

/-- The names that are no parameters and yet not free for further details. -/
def reserved : Category → List String
  | .invalidType => ["self", "message", "expected"]
  | .invalidSyntax => ["self", "position"]
  | .any | .validation | .configuration | .parse | .navigation | .extraction => ["self"]
  | _ => ["self", "message"]

/-- What of a fault is repeated in its context, in order. -/
def contextual : Category → List String
  | .validation | .invalidType => ["parameter", "expected"]
  | .invalidConfiguration => ["setting", "reason"]
  | .unsupportedDialect => ["dialect"]
  | .parse | .emptyProgram => ["position"]
  | .invalidSyntax => ["position", "dialect"]
  | .malformedNode => ["node_type", "field", "line"]
  | .unevaluableInitializer => ["node_type", "line", "column"]
  | _ => []

/-- What a fault can be asked for beside its message. -/
def attributes : Category → List String
  | .validation | .invalidType => ["parameter", "value", "expected"]
  | .invalidConfiguration => ["setting", "value", "reason"]
  | .unsupportedDialect => ["dialect"]
  | .parse | .emptyProgram => ["code_snippet", "position"]
  | .invalidSyntax => ["code_snippet", "position", "dialect", "line", "column"]
  | .malformedNode => ["node_type", "field", "line"]
  | .unevaluableInitializer => ["node_type", "reason", "line", "column"]
  | _ => []

end Category
end ComponentOutline
