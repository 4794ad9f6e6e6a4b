import ComponentOutline.Command.Run
import ComponentOutline.Syntax.Rows

/-!
# The program

The program works on the source file that its command line names.  The grammars are
not part of it: it takes the syntax tree of the source from standard input, one row a
line.
-/

namespace ComponentOutline
namespace Program

/-- What stands under names in the working folder. -/
def lookUp (names : List String) : IO (Option Entry) := do
  try
    let place ← IO.FS.realPath (Folder.pathOf names)
    if ← place.isDir then return some .folder
    return some (.file (← IO.FS.readBinFile place).data.toList)
  catch _ => return none

/-- What the working folder holds along the paths of a task. -/
def folderFor (task : Command.Task) : IO Folder := do
  let mut entries := []
  for names in (task.paths.flatMap Folder.trail) do
    if let some entry ← lookUp names then
      entries := (names, entry) :: entries
  return Folder.ofEntries entries

/-- The lines of a stream. -/
partial def linesOf (stream : IO.FS.Stream) (before : List String) : IO (List String) := do
  let line ← stream.getLine
  if line.isEmpty then return before.reverse
  linesOf stream (String.ofList (line.toList.filter (· != '\n')) :: before)

/-- The grammars for a program: each has the tree of these rows. -/
def grammarsOf (rows : List Row) : Grammars := fun _ code =>
  (Node.ofRows? code rows).getD (.mk ⟨0, "program", true, none, false, 0, 0, []⟩ [])

/-- The printer for standard output. -/
def printer : Console.Printer :=
  Console.printer Console.isEncodable

/-- Prints and writes what a program leaves behind, and gives its status. -/
def finish (outcome : Command.Outcome) : IO UInt32 := do
  IO.eprint outcome.logText
  IO.print outcome.output.toDisplay
  if let some (names, text) := outcome.written then
    IO.FS.writeFile (Folder.pathOf names) text
  match outcome.ending with
  | .status code =>
      if code = 2 then IO.eprint Command.Help.program
      return UInt32.ofNat code
  | .breakdown cause =>
      IO.eprintln cause.message
      return 1

/-- Runs the program with the words of its command line. -/
def run (words : List String) : IO UInt32 := do
  match Command.Request.ofWords words with
  | .ok ⟨_, some task⟩ =>
      let folder ← folderFor task
      let rows := (← linesOf (← IO.getStdin) []).filterMap Row.ofLine?
      finish (Command.runWith printer (grammarsOf rows) Settings.default folder words)
  | _ => finish (Command.runWith printer (grammarsOf []) Settings.default (fun _ => none) words)

end Program
end ComponentOutline

/-- The entry point of the program. -/
def main (words : List String) : IO UInt32 :=
  ComponentOutline.Program.run words
