import ComponentOutline.Command.Folder
import ComponentOutline.Command.Request
import ComponentOutline.Component.Record
import ComponentOutline.Component.TreeView
import ComponentOutline.Console.Tree
import ComponentOutline.Parsing.Reader
import ComponentOutline.Value.Json

/-!
# Running a command

A command reads one source file of the working folder, prints, and may write one
file.  A fault in the source or in the settings is printed and ends the program with
status 1; anything else that goes wrong breaks it off.
-/

namespace ComponentOutline
namespace Command

open Console

/-- Why a setting is no rank of log records, though it has the name of something else
that logging knows. -/
inductive LevelFault where
  /-- It names the layout of a line. -/
  | isLayout
  /-- It names the table of layouts. -/
  | isTable
  deriving DecidableEq

/-- What breaks a program off. -/
inductive Breakdown where
  | failure (failure : Failure)
  | path (fault : PathFault)
  | tag (fault : TagFault)
  | level (fault : LevelFault)

/-- The wording for a path that cannot be used. -/
def pathMessage : PathFault → String
  | .missing => "No such file or directory"
  | .isFolder => "Is a directory"
  | .notFolder => "Not a directory"
  | .tooLong => "File name too long"
  | .holdsNull => "embedded null byte"

/-- The wording for tagged text that cannot be shown. -/
def tagMessage : TagFault → String
  | .nothingToClose => "closing tag doesn't match any open tag"
  | .unreadableAction => "error parsing the parameters of a tag"
  | .unreadableColor fault => fault.message

/-- The wording for a setting that is no rank of log records. -/
def levelMessage : LevelFault → String
  | .isLayout => "Unknown level: '%(levelname)s:%(name)s:%(message)s'"
  | .isTable => "Level not an integer or a valid string"

/-- The wording of what breaks a program off. -/
def Breakdown.message : Breakdown → String
  | .failure cause => cause.message
  | .path fault => pathMessage fault
  | .tag fault => tagMessage fault
  | .level fault => levelMessage fault

/-- What a print that fails breaks the program off with. -/
def Breakdown.ofPrint : PrintFault → Breakdown
  | .tag fault => .tag fault
  | .unencodable text => .failure (.unencodable text)

/-- How a program ends. -/
inductive Ending where
  | status (code : Nat)
  | breakdown (cause : Breakdown)

/-- What a program leaves behind. -/
structure Outcome where
  ending : Ending
  /-- The least rank of the log records that are printed. -/
  threshold : Nat
  output : Text
  log : Log
  /-- The file that was written, by its names. -/
  written : Option (List String × String)

/-! ## Logging -/

/-- The rank of records that are printed if nothing else is asked for. -/
def defaultThreshold : Nat :=
  Level.rank .warning

/-- The names of ranks. -/
def thresholdNames : List (String × Nat) :=
  [("CRITICAL", 50), ("FATAL", 50), ("ERROR", 40), ("WARNING", 30), ("WARN", 30),
    ("INFO", 20), ("DEBUG", 10), ("NOTSET", 0)]

/-- The names that mean something else than a rank. -/
def otherNames : List (String × LevelFault) :=
  [("BASIC_FORMAT", .isLayout), ("_STYLES", .isTable)]

/-- The letters beyond ASCII whose capitals are ASCII letters. -/
def foreignCapitals : List (Char × String) :=
  [('ß', "SS"), ('ı', "I"), ('ſ', "S"), ('ﬀ', "FF"), ('ﬁ', "FI"), ('ﬂ', "FL"), ('ﬃ', "FFI"),
    ('ﬄ', "FFL"), ('ﬅ', "ST"), ('ﬆ', "ST")]

/-- A letter as ASCII capitals, if it has such; anything else as it is. -/
def capitals (letter : Char) : List Char :=
  match foreignCapitals.find? fun entry => entry.1 == letter with
  | some entry => entry.2.toList
  | none => [letter.toUpper]

/-- The threshold that a setting names, in any case; a setting that names nothing leaves
the usual one. -/
def thresholdOf (setting : Value) : Except LevelFault Nat :=
  let name := String.ofList (setting.plain.toDisplay.toList.flatMap capitals)
  match otherNames.find? fun entry => entry.1 == name with
  | some entry => .error entry.2
  | none =>
      .ok (((thresholdNames.find? fun entry => entry.1 == name).map (·.2)).getD
        defaultThreshold)

/-- The threshold for a command line; a switch for more counts before one for less, and
the settings count where there is none. -/
def Verbosity.threshold (verbosity : Verbosity) (settings : Settings) : Except LevelFault Nat :=
  if verbosity.debug then .ok (Level.rank .debug)
  else if verbosity.quiet then .ok (Level.rank .error)
  else if verbosity.verbose then .ok (Level.rank .info)
  else thresholdOf (settings.lookup "logging" "level" (.string "WARNING"))

/-- The line of a log record. -/
def recordLine (record : LogRecord) : String :=
  record.level.name ++ ":" ++ record.writer.name ++ ":" ++ record.message ++ "\n"

/-- The log as it is printed. -/
def Outcome.logText (outcome : Outcome) : String :=
  String.join ((outcome.log.atLeast outcome.threshold).map recordLine)

/-! ## Tasks -/

/-- What a task has done so far. -/
structure Work where
  output : Text
  log : Log
  written : Option (List String × String)

namespace Work

/-- The work of a task that has done nothing. -/
def start : Work :=
  ⟨[], [], none⟩

end Work

/-- A step of a task. -/
abbrev Working (α : Type) := Effect Work Breakdown α

namespace Working

variable {α : Type}

/-- A step that may fail. -/
def ofFailure (result : Except Failure α) : Working α :=
  Effect.ofExcept (result.mapError .failure)

/-- A step that looks for a path. -/
def ofPath (result : Except PathFault α) : Working α :=
  Effect.ofExcept (result.mapError .path)

/-- Prints what a printer makes of something. -/
def print (text : Except PrintFault Text) : Working Unit := do
  let text ← Effect.ofExcept (text.mapError .ofPrint)
  modify fun work => { work with output := work.output ++ text }

/-- Uses a reader. -/
def reading (reader : Reader) (step : Reading α) : Working α := do
  let (result, _, log) := step (reader, (← get).log)
  modify fun work => { work with log := log }
  ofFailure result

end Working

/-- The reader for a source. -/
def SourceFile.reader (source : SourceFile) (settings : Settings) : Except Failure Reader :=
  let strict : Value := if source.lenient then .bool false else .null
  match source.dialect with
  | some dialect => Reader.create (.string dialect.name) strict settings
  | none => Reader.createFor source.path strict settings

/-- The text of a source. -/
def SourceFile.text (source : SourceFile) (folder : Folder) : Working String := do
  let bytes ← Working.ofPath (folder.read source.path)
  Working.ofFailure ((sourceOfBytes bytes).mapError .undecodable)

section

variable (printer : Printer)

/-- Gives an outline out. -/
def give (folder : Folder) (descriptor : Descriptor) : Format → Working Unit
  | .tree =>
      if descriptor.isWritable then Working.print (printer.tree (descriptor.tree printer))
      else throw (.failure (.conversion .tooLongToWrite))
  | .json => do
      let (result, text) := descriptor.record.jsonSafe.json
      Working.ofFailure (result.mapError .conversion)
      Working.print (.ok (Text.ofString (text ++ "\n")))
  | .jsonFile path => do
      let names ← Working.ofPath (folder.target path)
      let (result, text) := descriptor.record.jsonSafe.json
      modify fun work => { work with written := some (names, text) }
      Working.ofFailure (result.mapError .conversion)
      Working.print (printer.text (Text.ofString ("[green]Wrote[/green] " ++ path)))

/-- Does a task. -/
def Task.perform (grammars : Grammars) (settings : Settings) (folder : Folder) :
    Task → Working Unit
  | .extract source pattern format => do
      let reader ← Working.ofFailure (source.reader settings)
      let text ← source.text folder
      let descriptor ← Working.reading reader
        (Reading.extract grammars settings (.string text) pattern)
      give printer folder descriptor format
  | .check source => do
      let reader ← Working.ofFailure (source.reader settings)
      let text ← source.text folder
      let root ← Working.reading reader (Reading.parse grammars (.string text) .null)
      Working.print (printer.text (Text.ofString
        (source.path ++ ": [bold]" ++ root.detectPattern.name ++ "[/bold] pattern candidate")))

/-- Does a task on a file that has to be there. -/
def Task.performOnFile (grammars : Grammars) (settings : Settings) (folder : Folder)
    (task : Task) : Working Nat := do
  let path := task.source.path
  if (folder.find path).isOk then
    tryCatch (do task.perform printer grammars settings folder; return 0) fun cause => do
      match cause with
      | .failure (.fault fault) =>
          Working.print (printer.text (Text.ofString
            ("[bold red]" ++ fault.category.name ++ ":[/bold red] ") ++
            printer.escape fault.message))
          return 1
      | cause => throw cause
  else
    Working.print (printer.text (Text.ofString
      ("[bold red]File not found:[/bold red] " ++ path)))
    return 1

/-- The outcome of a program that did no task. -/
def Outcome.early (ending : Ending) (threshold : Nat) (output : String) : Outcome :=
  ⟨ending, threshold, Text.ofString output, [], none⟩

/-- Runs the program with the words of its command line. -/
def runWith (grammars : Grammars) (settings : Settings) (folder : Folder) (words : List String) :
    Outcome :=
  match Request.ofWords words with
  | .error (.help text) => .early (.status 0) defaultThreshold text
  | .error .misuse => .early (.status 2) defaultThreshold ""
  | .ok request =>
      match request.verbosity.threshold settings, request.task with
      | .error fault, _ => .early (.breakdown (.level fault)) defaultThreshold ""
      | .ok threshold, none => .early (.status 0) threshold Help.program
      | .ok threshold, some task =>
          let (result, work) := task.performOnFile printer grammars settings folder Work.start
          let ending := match result with
            | .ok status => .status status
            | .error cause => .breakdown cause
          ⟨ending, threshold, work.output, work.log, work.written⟩

end

/-- Runs the program on a stream that has bytes for every code point. -/
def run : Grammars → Settings → Folder → List String → Outcome :=
  runWith (Console.printer fun _ => true)

end Command
end ComponentOutline
