import ComponentOutline.Component.Extract
import ComponentOutline.Dialect
import ComponentOutline.Parsing.Digest
import ComponentOutline.Parsing.RecentCache
import ComponentOutline.Syntax.Defect

/-!
# Reading sources

A reader turns source text into a syntax tree by the grammar of its dialect and
checks the tree: a strict reader refuses one with a defect, and every reader refuses
a program without statements.  Trees are kept in a cache under the source text and
the grammar, so that a source that is read again is not parsed again.
-/

namespace ComponentOutline

/-- The grammars: the tree of a source text by the grammar of a dialect. -/
abbrev Grammars := Dialect → String → Node

/-- What a tree is kept under. -/
structure SourceKey where
  digest : String
  code : String
  grammar : Dialect
  deriving DecidableEq

/-- A reader of sources. -/
structure Reader where
  dialect : Dialect
  /-- Whether trees with defects are refused; any value counts by its truth. -/
  strict : Value
  /-- The grammars that were used before. -/
  prepared : List Dialect
  cache : RecentCache SourceKey Node

namespace Reader

/-- The capacity that a setting asks for, which has to fit into a signed word. -/
def capacityOf (setting : Value) : Except Failure (Option Nat) :=
  match setting with
  | .null => .ok none
  | .bool value => .ok (some (if value then 1 else 0))
  | .number (.whole value) =>
      if value < 0 then .error refused
      else if powerOfTwo 63 ≤ value.toNat then .error .oversizedCapacity
      else .ok (some value.toNat)
  | _ => .error refused
where
  /-- The fault of a setting that is no capacity. -/
  refused : Failure :=
    .fault (.invalidSetting "parsing.cache_size" setting
      "expected a non-negative integer or None")

/-- A new reader.  An empty dialect and a missing strictness are taken from the
settings, and so is the capacity of the cache. -/
def create (dialect strict : Value) (settings : Settings) : Except Failure Reader := do
  let chosen :=
    if dialect.isTruthy then dialect
    else settings.lookup "parsing" "dialect" (.string "tsx")
  let strictness :=
    match strict with
    | .null => settings.lookup "parsing" "strict" (.bool true)
    | given => given
  let dialect ← Dialect.ofValue chosen
  let capacity ← capacityOf (settings.lookup "parsing" "cache_size" (.int 128))
  return {
    dialect := dialect
    strict := strictness
    prepared := []
    cache := .empty capacity }

/-- A new reader for a file, by its extension. -/
def createFor (path : String) (strict : Value) (settings : Settings) :
    Except Failure Reader :=
  create (.string (Dialect.ofPath path).name) strict settings

/-- The record of the first use of a grammar. -/
def preparedRecord (grammar : Dialect) : LogRecord :=
  { level := .debug
    writer := .grammars
    message := "Creating tree-sitter parser for " ++ grammar.name }

/-- The record of a syntax error. -/
def defectRecord (grammar : Dialect) (line column : Nat) : LogRecord :=
  { level := .error
    writer := .parsing
    message := "Syntax error in " ++ grammar.name ++ " source at line " ++ toString line ++
      ", column " ++ toString column }

/-- The record of a source that was read. -/
def parsedRecord (grammar : Dialect) (count : Nat) : LogRecord :=
  { level := .debug
    writer := .parsing
    message := "Parsed " ++ toString count ++ " characters with the " ++ grammar.name ++
      " grammar" }

end Reader

/-- A step that uses a reader, writes log records and may fail. -/
abbrev Reading (α : Type) := Effect (Reader × Log) Failure α

namespace Reading

variable {α : Type}

/-- A step that does not look at the reader. -/
def ofLogged (step : Logged α) : Reading α :=
  fun state =>
    let (result, log) := step state.2
    (result, state.1, log)

/-- Writes a record. -/
def write (record : LogRecord) : Reading Unit :=
  ofLogged (Logged.write record)

/-- Replaces the reader. -/
def update (reader : Reader) : Reading Unit :=
  modify fun state => (reader, state.2)

/-- The tree of a source, from the cache or from the grammar. -/
def fetch (grammars : Grammars) (grammar : Dialect) (code : String) : Reading Node := do
  let reader := (← get).1
  let key : SourceKey := ⟨Digest.ofString code, code, grammar⟩
  match reader.cache.get? key with
  | some tree =>
      update { reader with cache := reader.cache.touch key tree }
      return tree
  | none =>
      if !reader.prepared.contains grammar then
        write (Reader.preparedRecord grammar)
      let tree := grammars grammar code
      update { reader with
        prepared :=
          if reader.prepared.contains grammar then reader.prepared
          else grammar :: reader.prepared
        cache := reader.cache.store key tree }
      return tree

/-- The number of characters of a source that a syntax error quotes. -/
def snippetLength : Nat := 80

/-- Refuses a tree with a defect, naming the first one. -/
def refuseDefect (grammar : Dialect) (root : Node) : Reading Unit := do
  let defect := root.firstDefect?
  let place := defect.getD root
  let snippet ←
    match defect with
    | some node => Effect.ofExcept (node.readText.map fun text => some (cut snippetLength text))
    | none => pure none
  write (Reader.defectRecord grammar place.line place.column)
  throw (.fault (.invalidSyntax grammar.name snippet place.line place.column))

/-- The text of a source, which has to be text. -/
def sourceText (code : Value) : Except Failure String :=
  match code with
  | .text text =>
      match text.toString? with
      | some code => .ok code
      | none => .error (.unencodable text)
  | _ => .error (.fault (.invalidType "code" code "str"))

/-- Reads a source into the tree of its program. -/
def parse (grammars : Grammars) (code markup : Value) : Reading Node := do
  let text ← Effect.ofExcept (sourceText code)
  let reader := (← get).1
  let grammar := reader.dialect.grammar markup
  let root ← fetch grammars grammar text
  if reader.strict.isTruthy && root.hasDefect then
    refuseDefect grammar root
  if root.statements.isEmpty then
    throw (.fault .emptyProgram)
  write (Reader.parsedRecord grammar text.length)
  return root

/-- Reads a source and extracts the component that it declares, by a pattern or, if
none is given, by either. -/
def extract (grammars : Grammars) (settings : Settings) (code pattern : Value) :
    Reading Descriptor := do
  let root ← parse grammars code .null
  match pattern with
  | .null => ofLogged (Extraction.byEither settings root)
  | given =>
      let chosen ← Effect.ofExcept (Pattern.ofValue given)
      ofLogged (Extraction.byPattern settings chosen root)

end Reading
end ComponentOutline
