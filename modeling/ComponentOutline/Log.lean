/-!
# Log records

What happens on the way is reported as records.  A record has a level and names the
part of the program that wrote it.
-/

namespace ComponentOutline

/-- How serious a record is. -/
inductive Level where
  | debug
  | info
  | warning
  | error
  | critical
  deriving DecidableEq

namespace Level

/-- The rank of a level. -/
def rank : Level → Nat
  | .debug => 10
  | .info => 20
  | .warning => 30
  | .error => 40
  | .critical => 50

/-- The name of a level. -/
def name : Level → String
  | .debug => "DEBUG"
  | .info => "INFO"
  | .warning => "WARNING"
  | .error => "ERROR"
  | .critical => "CRITICAL"

/-- The level with a name. -/
def ofName? (name : String) : Option Level :=
  [debug, info, warning, error, critical].find? fun level => level.name == name

end Level

/-- The parts of the program that write records. -/
inductive Writer where
  | grammars
  | parsing
  | extraction
  | initializer
  | markup
  | factory
  | outline
  | faults
  deriving DecidableEq

/-- The name of a writer in the records. -/
def Writer.name : Writer → String
  | .grammars => "reactparser.core.engine.languages"
  | .parsing => "reactparser.core.engine.ast_handler"
  | .extraction => "reactparser.core.extractors.base"
  | .initializer => "reactparser.core.extractors.initializer"
  | .markup => "reactparser.core.markup"
  | .factory => "reactparser.core.extractors.factory_component"
  | .outline => "reactparser.main"
  | .faults => "reactparser"

/-- A log record. -/
structure LogRecord where
  level : Level
  writer : Writer
  message : String
  deriving DecidableEq

/-- The records so far, the oldest first. -/
abbrev Log := List LogRecord

namespace Log

/-- The records of at least a rank. -/
def atLeast (rank : Nat) (log : Log) : Log :=
  log.filter fun record => rank ≤ record.level.rank

end Log
end ComponentOutline
