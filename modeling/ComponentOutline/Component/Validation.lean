import ComponentOutline.Component.Descriptor

/-!
# Descriptors from values

A descriptor can be given as a record with the fields `name`, `state`, `props` and
`children`, all of them optional; other fields are ignored.  Nothing is converted: a
name has to be a text, and the rest have to be lists of records.  All issues are
collected, in the order of the fields.
-/

namespace ComponentOutline

/-- A step on the way to a part of a value. -/
inductive PathPart where
  | field (name : String)
  | index (position : Nat)
  deriving DecidableEq

/-- What is wrong with a part of a value. -/
inductive IssueKind where
  | notText
  | notList
  | notRecord
  | absent
  deriving DecidableEq

/-- A part of a value that is not as it has to be. -/
structure Issue where
  path : List PathPart
  kind : IssueKind
  deriving DecidableEq

/-- A checked value, or everything that is wrong with it. -/
abbrev Checked (α : Type) := Except (List Issue) α

namespace Checked

variable {α β : Type}

/-- The issues found. -/
def issues : Checked α → List Issue
  | .ok _ => []
  | .error found => found

/-- Two checks together; the issues of both are kept. -/
def both (first : Checked α) (second : Checked β) : Checked (α × β) :=
  match first, second with
  | .ok a, .ok b => .ok (a, b)
  | first, second => .error (issues first ++ issues second)

/-- A check of a part: its issues lie on the way to it. -/
def within (part : PathPart) (check : Checked α) : Checked α :=
  check.mapError fun found => found.map fun issue => { issue with path := part :: issue.path }

/-- A check that fails right here. -/
def fail (kind : IssueKind) : Checked α :=
  .error [⟨[], kind⟩]

end Checked

namespace Validation

/-- A value that has to be a text. -/
def text : Value → Checked Text
  | .text value => .ok value
  | _ => Checked.fail .notText

/-- The value of a field. -/
def field? (name : String) (entries : List (Text × Value)) : Option Value :=
  Entries.get? (Text.ofString name) entries

/-- A field that has to be there and be a text. -/
def requiredText (name : String) (entries : List (Text × Value)) : Checked Text :=
  Checked.within (.field name) <|
    match field? name entries with
    | some value => text value
    | none => Checked.fail .absent

/-- A state entry; its value defaults to nothing. -/
def stateEntry : Value → Checked StateEntry
  | .record entries =>
      (requiredText "name" entries).map fun name =>
        ⟨name, (field? "value" entries).getD .null⟩
  | _ => Checked.fail .notRecord

/-- A prop. -/
def prop : Value → Checked String
  | .record entries => (requiredText "name" entries).map Text.toDisplay
  | _ => Checked.fail .notRecord

/-- The items of a list from a position on, each checked. -/
def items {α : Type} (check : Value → Checked α) : Nat → List Value → Checked (List α)
  | _, [] => .ok []
  | position, item :: rest =>
      (Checked.both (Checked.within (.index position) (check item))
        (items check (position + 1) rest)).map fun both => both.1 :: both.2

/-- A value that has to be a list, its items checked. -/
def list {α : Type} (check : Value → Checked α) : Value → Checked (List α)
  | .list values => items check 0 values
  | _ => Checked.fail .notList

/-- A field that defaults to the empty list. -/
def listField {α : Type} (check : Value → Checked α) (name : String)
    (entries : List (Text × Value)) : Checked (List α) :=
  match field? name entries with
  | some value => Checked.within (.field name) (list check value)
  | none => .ok []

/-- The name of a component; it defaults to the empty one. -/
def nameField (entries : List (Text × Value)) : Checked String :=
  match field? "name" entries with
  | some value => Checked.within (.field "name") ((text value).map Text.toDisplay)
  | none => .ok ""

mutual

/-- A descriptor. -/
def descriptor : Value → Checked Descriptor
  | .record entries =>
      (Checked.both (nameField entries)
        (Checked.both (listField stateEntry "state" entries)
          (Checked.both (listField prop "props" entries)
            (childrenField entries)))).map fun (name, state, props, children) =>
        .mk name state props children
  | _ => Checked.fail .notRecord

/-- The children among the fields of a descriptor. -/
def childrenField : List (Text × Value) → Checked (List Descriptor)
  | [] => .ok []
  | (key, value) :: rest =>
      if key = Text.ofString "children" then
        Checked.within (.field "children") (children value)
      else childrenField rest

/-- A list of descriptors. -/
def children : Value → Checked (List Descriptor)
  | .list values => descriptors 0 values
  | _ => Checked.fail .notList

/-- Descriptors from a position on. -/
def descriptors : Nat → List Value → Checked (List Descriptor)
  | _, [] => .ok []
  | position, item :: rest =>
      (Checked.both (Checked.within (.index position) (descriptor item))
        (descriptors (position + 1) rest)).map fun both => both.1 :: both.2

end

end Validation
end ComponentOutline
