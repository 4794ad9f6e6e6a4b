import ComponentOutline.Command.Help
import ComponentOutline.Command.Words
import ComponentOutline.Component.Pattern
import ComponentOutline.Dialect

/-!
# Requests

A command line asks for one of two tasks on a source file, or for none, and says how
much is to be logged.
-/

namespace ComponentOutline
namespace Command

/-- How much is to be logged. -/
structure Verbosity where
  verbose : Bool
  debug : Bool
  quiet : Bool
  deriving DecidableEq

/-- A source file and how to read it. -/
structure SourceFile where
  path : String
  /-- The dialect, if it is not to be taken from the path. -/
  dialect : Option Dialect
  /-- Whether syntax errors are accepted. -/
  lenient : Bool
  deriving DecidableEq

/-- The form in which an outline is given out. -/
inductive Format where
  | tree
  | json
  | jsonFile (path : String)
  deriving DecidableEq

/-- What is to be done. -/
inductive Task where
  /-- Extract the component of a source, by the pattern that a value names or by
  either. -/
  | extract (source : SourceFile) (pattern : Value) (format : Format)
  /-- Report the pattern that a source probably uses. -/
  | check (source : SourceFile)

/-- The source of a task. -/
def Task.source : Task → SourceFile
  | .extract source _ _ => source
  | .check source => source

/-- The paths that a task names. -/
def Task.paths : Task → List String
  | .extract source _ (.jsonFile path) => [source.path, path]
  | task => [task.source.path]

/-- What a command line asks for. -/
structure Request where
  verbosity : Verbosity
  task : Option Task

/-- What the words of a command fill in. -/
structure Form where
  path : Option String
  /-- The name of a pattern, or null. -/
  pattern : Value
  dialect : Option Dialect
  lenient : Bool
  rawJson : Bool
  output : Option String

namespace Form

/-- The form that nothing is filled in. -/
def blank : Form :=
  ⟨none, .null, none, false, false, none⟩

/-- Fills in the path, unless there is one. -/
def offer (path : String) (form : Form) : Form :=
  { form with path := form.path.or (some path) }

/-- The format that a form asks for; a file without a name counts as none. -/
def format (form : Form) : Format :=
  match form.output with
  | some "" => if form.rawJson then .json else .tree
  | some path => .jsonFile path
  | none => if form.rawJson then .json else .tree

end Form

/-- The switches of the program. -/
def programSwitches : Switches Verbosity :=
  [("-h", .help),
    ("--help", .help),
    ("-v", .mark fun verbosity => { verbosity with verbose := true }),
    ("--verbose", .mark fun verbosity => { verbosity with verbose := true }),
    ("--debug", .mark fun verbosity => { verbosity with debug := true }),
    ("--quiet", .mark fun verbosity => { verbosity with quiet := true })]

/-- The switches that both commands have.  A dialect that is nothing counts as none. -/
def commonSwitches : Switches Form :=
  [("-h", .help),
    ("--help", .help),
    ("--dialect", .take fun
      | none => some fun form => { form with dialect := none }
      | some word =>
          (Dialect.ofText? (Text.ofString word)).map fun dialect form =>
            { form with dialect := some dialect }),
    ("--lenient", .mark fun form => { form with lenient := true })]

/-- The switches of the command that extracts a component.  A pattern that is nothing is
an empty list, which names no pattern. -/
def extractSwitches : Switches Form :=
  commonSwitches ++
    [("--pattern", .take fun
      | none => some fun form => { form with pattern := .list [] }
      | some word =>
          (Pattern.ofValue (.string word)).toOption.map fun pattern form =>
            { form with pattern := .string pattern.name }),
    ("--raw-json", .mark fun form => { form with rawJson := true }),
    ("--output", .take fun word => some fun form => { form with output := word })]

/-- Fills in a form from the words of a command.  The command has one operand, next to
which a divider may stand; whatever else is left over is a misuse. -/
def fillIn
    (switches : Switches Form)
    (helpText : String)
    (surplus : Bool)
    (form : Form) : List (Word Form) → Except Stop (String × Form)
  | [] =>
      match form.path with
      | some path => if surplus then .error .misuse else .ok (path, form)
      | none => .error .misuse
  | ⟨_, .switch action tail⟩ :: rest =>
      match performSwitch switches helpText action tail rest.head? form with
      | .error stop => .error stop
      | .ok ⟨changed, tookNext⟩ =>
          fillIn switches helpText surplus changed (if tookNext then rest.tail else rest)
  | ⟨_, .unknown⟩ :: rest => fillIn switches helpText true form rest
  | ⟨path, .operand⟩ :: ⟨_, .divider⟩ :: rest =>
      fillIn switches helpText (surplus || form.path.isSome) (form.offer path) rest
  | ⟨path, .operand⟩ :: rest =>
      fillIn switches helpText (surplus || form.path.isSome) (form.offer path) rest
  | ⟨_, .divider⟩ :: ⟨path, .operand⟩ :: rest =>
      fillIn switches helpText (surplus || form.path.isSome) (form.offer path) rest
  | ⟨_, .divider⟩ :: rest => fillIn switches helpText true form rest
termination_by words => words.length
decreasing_by all_goals grind

/-- Reads the words of a command. -/
def readForm (switches : Switches Form) (helpText : String) (words : List String) :
    Except Stop (SourceFile × Form) := do
  let sorted ← sort switches words
  let (path, form) ← fillIn switches helpText false .blank sorted
  return (⟨path, form.dialect, form.lenient⟩, form)

/-- Reads a command with its words. -/
def readTask (name : String) (words : List String) : Except Stop Task :=
  if name == "extract" then do
    let (source, form) ← readForm extractSwitches Help.extract words
    return .extract source form.pattern form.format
  else if name == "check" then do
    let (source, _) ← readForm commonSwitches Help.check words
    return .check source
  else .error .misuse

/-- Reads the words of the program up to the command, which takes all the others. -/
def readWords (surplus : Bool) (verbosity : Verbosity) :
    List (Word Verbosity) → Except Stop Request
  | [] => if surplus then .error .misuse else .ok ⟨verbosity, none⟩
  | ⟨_, .switch action tail⟩ :: rest =>
      match performSwitch programSwitches Help.program action tail rest.head? verbosity with
      | .error stop => .error stop
      | .ok ⟨changed, tookNext⟩ =>
          readWords surplus changed (if tookNext then rest.tail else rest)
  | ⟨_, .unknown⟩ :: rest => readWords true verbosity rest
  | ⟨_, .divider⟩ :: _ => .error .misuse
  | ⟨name, .operand⟩ :: rest => do
      let task ← readTask name (rest.map (·.text))
      if surplus then .error .misuse else return ⟨verbosity, some task⟩
termination_by words => words.length
decreasing_by all_goals grind

/-- Reads a command line. -/
def Request.ofWords (words : List String) : Except Stop Request := do
  readWords false ⟨false, false, false⟩ (← sort programSwitches words)

end Command
end ComponentOutline
