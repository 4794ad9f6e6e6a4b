import ComponentOutline.Fault.Basic
import ComponentOutline.Text.Lowered

/-!
# Dialects

There is a grammar for each of three dialects.  Markup inside of the source can be
forced on or off, which exchanges the two typed dialects; the untyped one always
takes markup.
-/

namespace ComponentOutline

/-- The dialects that there are grammars for. -/
inductive Dialect where
  | javascript
  | typescript
  | tsx
  deriving DecidableEq

namespace Dialect

/-- The name of a dialect and of its grammar. -/
def name : Dialect → String
  | .javascript => "javascript"
  | .typescript => "typescript"
  | .tsx => "tsx"

/-- The dialect with a name. -/
def ofText? (text : Text) : Option Dialect :=
  [javascript, typescript, tsx].find? fun dialect => text == Text.ofString dialect.name

/-- The dialect that a value names. -/
def ofValue (value : Value) : Except Failure Dialect :=
  if !value.isKey then .error (.notLookedUp value.typeName)
  else
    match value with
    | .text text =>
        match ofText? text with
        | some dialect => .ok dialect
        | none => .error (.fault (.unsupportedDialect value))
    | _ => .error (.fault (.unsupportedDialect value))

/-- The grammar for a dialect when markup is forced on, forced off or left open. -/
def grammar (dialect : Dialect) (markup : Value) : Dialect :=
  match dialect with
  | .typescript => if markup.isTruthy then .tsx else .typescript
  | .tsx =>
      match markup with
      | .bool false => .typescript
      | _ => .tsx
  | .javascript => .javascript

/-- The dialect for a file extension; an unknown one counts as the richest dialect. -/
def ofExtension (extension : String) : Dialect :=
  let lowered := loweredString extension
  if [".js", ".jsx", ".mjs", ".cjs"].contains lowered then .javascript
  else if lowered == ".ts" then .typescript
  else .tsx

/-- The last component of a path. -/
def fileName (path : String) : List Char :=
  (path.toList.reverse.takeWhile (· != '/')).reverse

/-- The extension of a path: what stands from the last dot of its last component on,
unless nothing but dots stands before it. -/
def extensionOf (path : String) : String :=
  let name := fileName path
  let backwards := name.reverse
  let afterDot := (backwards.takeWhile (· != '.')).reverse
  let beforeDot := (backwards.dropWhile (· != '.')).drop 1
  if beforeDot.any (· != '.') then String.ofList ('.' :: afterDot) else ""

/-- The dialect for a file. -/
def ofPath (path : String) : Dialect :=
  ofExtension (extensionOf path)

end Dialect
end ComponentOutline
