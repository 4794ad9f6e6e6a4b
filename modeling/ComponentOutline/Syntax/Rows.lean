import ComponentOutline.Syntax.Node

/-!
# Trees from rows

A syntax tree is handed over as its nodes in pre-order, one row each, a row giving
the depth of its node.  Reading the rows from the last to the first, the children
of a node are the finished trees that stand right behind it and lie deeper.
-/

namespace ComponentOutline

/-- One node of a tree written in pre-order. -/
structure Row where
  depth : Nat
  named : Bool
  kind : String
  field : Option String
  /-- The first byte that the node covers. -/
  start : Nat
  /-- The byte behind the last one. -/
  stop : Nat
  missing : Bool

namespace Row

/-- Reads a digit for yes or no. -/
def flag? : String → Option Bool
  | "0" => some false
  | "1" => some true
  | _ => none

/-- Reads a row from a line of seven columns, which tabs separate. -/
def ofLine? (line : String) : Option Row :=
  match (line.toList.splitOn '\t').map String.ofList with
  | [depth, named, kind, field, start, stop, missing] => do
      return {
        depth := ← depth.toNat?
        named := ← flag? named
        kind := kind
        field := if field = "" then none else some field
        start := ← start.toNat?
        stop := ← stop.toNat?
        missing := ← flag? missing }
  | _ => none

end Row

/-- Source bytes with the places of their line breaks. -/
structure Source where
  bytes : Array UInt8
  breaks : List Nat

namespace Source

/-- The source of a program text. -/
def ofString (code : String) : Source :=
  let bytes := code.toUTF8.data
  { bytes := bytes
    breaks := bytes.toList.zipIdx.filterMap fun (byte, index) =>
      if byte = 10 then some index else none }

/-- What a row says about its node. -/
def label (source : Source) (index : Nat) (row : Row) : Label :=
  let before := source.breaks.filter (· < row.start)
  { index := index
    kind := row.kind
    named := row.named
    field := row.field
    missing := row.missing
    row := before.length
    column := match before.getLast? with
      | some last => row.start - (last + 1)
      | none => row.start
    bytes := (source.bytes.extract row.start row.stop).toList }

end Source

namespace Node

/-- Puts a row in front of finished trees, taking the deeper ones as children. -/
def prependRow (source : Source) (entry : Row × Nat) (finished : List (Nat × Node)) :
    List (Nat × Node) :=
  let deeper := finished.takeWhile fun tree => entry.1.depth < tree.1
  let others := finished.dropWhile fun tree => entry.1.depth < tree.1
  (entry.1.depth, .mk (source.label entry.2 entry.1) (deeper.map (·.2))) :: others

/-- The tree of rows in pre-order. -/
def ofRows? (code : String) (rows : List Row) : Option Node :=
  let source := Source.ofString code
  ((rows.zipIdx.foldr (prependRow source) []).head?).map (·.2)

end Node
end ComponentOutline
