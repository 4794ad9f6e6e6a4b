import ComponentOutline.Parsing.Reader

/-!
# Sessions

A session has one set of settings and any number of readers, each under a name.  A
reader takes its dialect, its strictness and the capacity of its cache from the
settings when it is created; an extraction takes its options from the settings when
it runs.
-/

namespace ComponentOutline

/-- What a reader says about a program that it accepts. -/
structure Summary where
  kind : String
  hasDefect : Bool
  /-- The statements with their lines and columns. -/
  statements : List (String × Nat × Nat)
  declares : Bool
  pattern : Pattern

/-- The summary of a program. -/
def Node.summary (root : Node) : Summary :=
  { kind := root.kind
    hasDefect := root.hasDefect
    statements := root.statements.map fun statement =>
      (statement.kind, statement.line, statement.column)
    declares := root.hasDeclaration
    pattern := root.detectPattern }

/-- The settings and the readers of a session. -/
structure Session where
  settings : Settings
  readers : Entries String Reader

namespace Session

/-- The session that nothing was done in. -/
def start : Session :=
  ⟨Settings.default, []⟩

/-- What can be done in a session. -/
inductive Step where
  | getSetting (group key : String) (fallback : Value)
  | setSetting (group key : String) (value : Value)
  | resetSettings
  /-- Create a reader of a dialect. -/
  | create (id : String) (dialect strict : Value)
  /-- Create a reader for a file. -/
  | createFor (id path : String) (strict : Value)
  | parse (id : String) (code markup : Value)
  | extract (id : String) (code pattern : Value)

/-- How often a reader was asked and how often it had to parse. -/
structure Usage where
  /-- The number of parses in this step. -/
  parses : Nat
  hits : Nat
  misses : Nat
  capacity : Option Nat
  size : Nat

/-- What a step answers. -/
inductive Answer where
  | value (value : Value)
  | done
  | created (dialect : Dialect) (strict : Value)
  | refused (failure : Failure)
  | parsed (result : Except Failure Summary) (usage : Usage)
  | extracted (result : Except Failure Descriptor) (usage : Usage)
  /-- No reader has this name. -/
  | unknownReader

/-- The usage of a reader by a step. -/
def usage (before after : Reader) : Usage :=
  { parses := after.cache.misses - before.cache.misses
    hits := after.cache.hits
    misses := after.cache.misses
    capacity := after.cache.capacity
    size := after.cache.size }

/-- Adds a created reader; a failed creation leaves the session alone. -/
def addReader (id : String) (created : Except Failure Reader) (session : Session) :
    Answer × Session :=
  match created with
  | .ok reader =>
      (.created reader.dialect reader.strict,
        { session with readers := session.readers.insert id reader })
  | .error failure => (.refused failure, session)

/-- Runs a step of a reader. -/
def useReader {α : Type}
    (id : String)
    (step : Reading α)
    (answer : Except Failure α → Usage → Answer)
    (session : Session) : Answer × Session × Log :=
  match session.readers.get? id with
  | none => (.unknownReader, session, [])
  | some reader =>
      let (result, after, log) := step (reader, [])
      (answer result (usage reader after),
        { session with readers := session.readers.insert id after }, log)

/-- Does one step: its answer, the session after it and its log. -/
def run (grammars : Grammars) (session : Session) : Step → Answer × Session × Log
  | .getSetting group key fallback =>
      (.value (session.settings.lookup group key fallback), session, [])
  | .setSetting group key value =>
      let settings := session.settings.assign group key value
      (.value (settings.lookup group key .null), { session with settings := settings }, [])
  | .resetSettings => (.done, { session with settings := Settings.default }, [])
  | .create id dialect strict =>
      let (answer, after) :=
        addReader id (Reader.create dialect strict session.settings) session
      (answer, after, [])
  | .createFor id path strict =>
      let (answer, after) :=
        addReader id (Reader.createFor path strict session.settings) session
      (answer, after, [])
  | .parse id code markup =>
      useReader id (Node.summary <$> Reading.parse grammars code markup) .parsed session
  | .extract id code pattern =>
      useReader id (Reading.extract grammars session.settings code pattern) .extracted session

/-- Does steps one after the other. -/
def runAll (grammars : Grammars) : Session → List Step → List (Answer × Log)
  | _, [] => []
  | session, step :: rest =>
      let (answer, after, log) := run grammars session step
      (answer, log) :: runAll grammars after rest

end Session
end ComponentOutline
