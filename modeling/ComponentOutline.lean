import ComponentOutline.Command.Folder
import ComponentOutline.Command.Help
import ComponentOutline.Command.Request
import ComponentOutline.Command.Run
import ComponentOutline.Command.Words
import ComponentOutline.Component.Class
import ComponentOutline.Component.Descriptor
import ComponentOutline.Component.Detect
import ComponentOutline.Component.Extract
import ComponentOutline.Component.Factory
import ComponentOutline.Component.Pattern
import ComponentOutline.Component.Progress
import ComponentOutline.Component.Record
import ComponentOutline.Component.TreeView
import ComponentOutline.Component.Validation
import ComponentOutline.Console.Argument.Literal
import ComponentOutline.Console.Argument.Token
import ComponentOutline.Console.CellTable
import ComponentOutline.Console.CellWidth
import ComponentOutline.Console.Color
import ComponentOutline.Console.Emoji
import ComponentOutline.Console.EmojiTable
import ComponentOutline.Console.Lines
import ComponentOutline.Console.Printer
import ComponentOutline.Console.Style
import ComponentOutline.Console.Tagged
import ComponentOutline.Console.Tree
import ComponentOutline.Dialect
import ComponentOutline.Effect
import ComponentOutline.Fault.Basic
import ComponentOutline.Fault.Category
import ComponentOutline.Fault.Report
import ComponentOutline.Literal.Evaluate
import ComponentOutline.Literal.Numbers
import ComponentOutline.Literal.State
import ComponentOutline.Literal.Strings
import ComponentOutline.Log
import ComponentOutline.Main
import ComponentOutline.Markup.Element
import ComponentOutline.Markup.Tag
import ComponentOutline.Number.Binary64
import ComponentOutline.Number.Conversion
import ComponentOutline.Number.Numeral
import ComponentOutline.Number.Shortest
import ComponentOutline.Number.Written
import ComponentOutline.Parsing.Digest
import ComponentOutline.Parsing.Reader
import ComponentOutline.Parsing.RecentCache
import ComponentOutline.Session
import ComponentOutline.Settings
import ComponentOutline.Syntax.Defect
import ComponentOutline.Syntax.Node
import ComponentOutline.Syntax.Rows
import ComponentOutline.Syntax.Walk
import ComponentOutline.Text.CaseTable
import ComponentOutline.Text.CodePoint
import ComponentOutline.Text.Lowered
import ComponentOutline.Text.NumeralForm
import ComponentOutline.Text.Printable
import ComponentOutline.Text.Quoted
import ComponentOutline.Text.Ranges
import ComponentOutline.Text.Utf16
import ComponentOutline.Text.Utf8
import ComponentOutline.Text.WordTable
import ComponentOutline.Text.Words
import ComponentOutline.Value.Basic
import ComponentOutline.Value.Entries
import ComponentOutline.Value.Json
import ComponentOutline.Value.Shown
import ComponentOutline.Proofs.Walk.Recursion
import ComponentOutline.Proofs.Walk.Trace
import ComponentOutline.Proofs.Effect.Ignores
import ComponentOutline.Proofs.Effect.EndsAtFirst
import ComponentOutline.Proofs.Syntax.Occurrence
import ComponentOutline.Proofs.Component.Placement
import ComponentOutline.Proofs.Component.Survey
import ComponentOutline.Proofs.Component.Binding
import ComponentOutline.Proofs.Component.Recording
import ComponentOutline.Proofs.Component.Factory
import ComponentOutline.Proofs.Component.Class
import ComponentOutline.Proofs.Component.Recognition
import ComponentOutline.Proofs.Markup.Readable
import ComponentOutline.Proofs.Component.FactoryFailure
import ComponentOutline.Proofs.Component.ClassFailure
import ComponentOutline.Proofs.Component.FirstFailure
import ComponentOutline.Proofs.Value.Entries
import ComponentOutline.Proofs.Literal.Equations
import ComponentOutline.Proofs.Literal.Grammar
import ComponentOutline.Proofs.Literal.FirstComplaint
import ComponentOutline.Proofs.Literal.State
import ComponentOutline.Proofs.Literal.Slots
import ComponentOutline.Proofs.Syntax.Similar
import ComponentOutline.Proofs.Literal.Similar
import ComponentOutline.Proofs.Markup.Similar
import ComponentOutline.Proofs.Component.Similar
import ComponentOutline.Proofs.Syntax.Comments
import ComponentOutline.Proofs.Component.Comments
import ComponentOutline.Proofs.Syntax.Typed
import ComponentOutline.Proofs.Component.Typed
import ComponentOutline.Proofs.Number.Numeral
import ComponentOutline.Proofs.Number.Written
import ComponentOutline.Proofs.Literal.Conversion
import ComponentOutline.Proofs.Component.Conversion
import ComponentOutline.Proofs.Component.Detection
import ComponentOutline.Proofs.Markup.Rendering
import ComponentOutline.Proofs.Syntax.Defect
import ComponentOutline.Proofs.Parsing.Verdict
import ComponentOutline.Proofs.Parsing.Transparency
import ComponentOutline.Proofs.Session.Steps
import ComponentOutline.Proofs.Session.Isolation
import ComponentOutline.Proofs.Number.Positional
import ComponentOutline.Proofs.Parsing.FirstDefect
import ComponentOutline.Proofs.Text.Utf16
import ComponentOutline.Proofs.Literal.Integers
import ComponentOutline.Proofs.Literal.Spelling
import ComponentOutline.Proofs.Literal.StringUnits
import ComponentOutline.Proofs.Literal.SourceValue
import ComponentOutline.Proofs.Literal.StringTokens
import ComponentOutline.Proofs.Parsing.Recency
import ComponentOutline.Proofs.Parsing.Usage
import ComponentOutline.Proofs.Walk.Calls
import ComponentOutline.Proofs.Walk.Invariant
import ComponentOutline.Proofs.Component.Settling
import ComponentOutline.Proofs.Component.Scopes
import ComponentOutline.Proofs.Markup.Lookup
import ComponentOutline.Proofs.Value.JsonSafe
import ComponentOutline.Proofs.Console.Emoji
import ComponentOutline.Proofs.Value.Shown
import ComponentOutline.Proofs.Console.Tagged
import ComponentOutline.Proofs.Console.Escaped
import ComponentOutline.Proofs.Console.Rendered
import ComponentOutline.Proofs.Console.Markup
import ComponentOutline.Proofs.Console.Rules
import ComponentOutline.Proofs.Console.StyleName
import ComponentOutline.Proofs.Console.Styled
import ComponentOutline.Proofs.Console.Tree
import ComponentOutline.Proofs.Console.Printer
import ComponentOutline.Proofs.Component.StateLine
import ComponentOutline.Proofs.Component.TreeView
