/-!
# Help texts

What the program and its two commands say about their use.
-/

namespace ComponentOutline
namespace Command
namespace Help

/-- Lines one after the other, each with its end. -/
def ofLines (lines : List String) : String :=
  String.join (lines.map (· ++ "\n"))

/-- The help of the program. -/
def program : String :=
  ofLines [
    "usage: reactparser [-h] [-v] [--debug] [--quiet] \x7bextract,check\x7d ...",
    "",
    "Extract React component structure from source files",
    "",
    "positional arguments:",
    "  \x7bextract,check\x7d",
    "    extract        Extract the component declared in a file",
    "    check          Report which declaration pattern a file uses",
    "",
    "options:",
    "  -h, --help       show this help message and exit",
    "  -v, --verbose    Verbose output",
    "  --debug          Enable debug logging",
    "  --quiet          Reduce logs to errors only"]

/-- The lines on the switches that both commands have. -/
def dialectLines : List String :=
  ["  --dialect \x7bjavascript,typescript,tsx\x7d",
    "                        Grammar override",
    "  --lenient             Accept sources with syntax errors"]

/-- The lines on the operand that both commands have. -/
def operandLines : List String :=
  ["",
    "positional arguments:",
    "  file                  Source file path",
    "",
    "options:",
    "  -h, --help            show this help message and exit"]

/-- The help of the command that extracts a component. -/
def extract : String :=
  ofLines (
    ("usage: reactparser extract [-h] [--pattern \x7bfactory,class\x7d] " ++
      "[--dialect \x7bjavascript,typescript,tsx\x7d] [--lenient] [--raw-json] " ++
      "[--output OUTPUT] file") ::
    operandLines ++
    ["  --pattern \x7bfactory,class\x7d",
      "                        Declaration pattern (detected when omitted)"] ++
    dialectLines ++
    ["  --raw-json            Output raw JSON",
      "  --output OUTPUT       Write JSON to this file"])

/-- The help of the command that reports a pattern. -/
def check : String :=
  ofLines (
    ("usage: reactparser check [-h] [--dialect \x7bjavascript,typescript,tsx\x7d] " ++
      "[--lenient] file") ::
    operandLines ++ dialectLines)

end Help
end Command
end ComponentOutline
