import ComponentOutline.Fault.Basic

/-!
# Settings

Settings are values in sections.  Any value may be set, also in a section of its
own; what a value means is decided where it is used.
-/

namespace ComponentOutline

/-- Values by section and key. -/
abbrev Settings := Entries String (Entries String Value)

namespace Settings

/-- The settings from which every program starts. -/
def default : Settings :=
  [("parsing",
      [("dialect", .string "tsx"), ("strict", .bool true), ("cache_size", .int 128)]),
    ("extraction",
      [("factory_callees", .list [.string "createClass", .string "createReactClass"]),
        ("state_supplier", .string "getInitialState"),
        ("base_components", .list [.string "Component", .string "PureComponent"])]),
    ("logging", [("level", .string "WARNING")])]

/-- The value of a setting, or another one where it is not set. -/
def lookup (group key : String) (fallback : Value) (settings : Settings) : Value :=
  ((settings.get? group).bind fun entries => entries.get? key).getD fallback

/-- Sets a value. -/
def assign (group key : String) (value : Value) (settings : Settings) : Settings :=
  settings.insert group (((settings.get? group).getD []).insert key value)

@[simp] theorem lookup_assign_self
    (group key : String)
    (value fallback : Value)
    (settings : Settings) :
    (settings.assign group key value).lookup group key fallback = value := by
  simp [lookup, assign]

/-- Setting a value leaves all others alone. -/
theorem lookup_assign_of_ne
    {group key otherGroup otherKey : String}
    (differs : group ≠ otherGroup ∨ key ≠ otherKey)
    (value fallback : Value)
    (settings : Settings) :
    (settings.assign otherGroup otherKey value).lookup group key fallback =
      settings.lookup group key fallback := by
  unfold lookup assign
  by_cases sameGroup : group = otherGroup
  · subst sameGroup
    rw [Entries.get?_insert_self, Option.bind_some,
      Entries.get?_insert_of_ne (differs.resolve_left (not_not_intro rfl))]
    cases settings.get? group with
    | none => rfl
    | some entries => rfl
  · rw [Entries.get?_insert_of_ne sameGroup]

end Settings

/-- The names among values; a list or record cannot be one. -/
def Value.namesIn : List Value → Except Failure (List Text)
  | [] => .ok []
  | item :: rest =>
      if item.isKey then do
        let names ← namesIn rest
        match item with
        | .text name => return name :: names
        | _ => return names
      else .error (.notLookedUp item.typeName)

/-- The names that a value lists.  A text lists its characters and a record its keys;
members that are no texts name nothing. -/
def Value.names : Value → Except Failure (List Text)
  | .list items => Value.namesIn items
  | .text characters => .ok (characters.map ([·]))
  | .record entries => .ok (entries.map (·.1))
  | value => .error (.notIterable value.typeName)

/-- A list of texts lists these texts. -/
theorem Value.names_texts (names : List Text) :
    Value.names (.list (names.map .text)) = .ok names := by
  change Value.namesIn (names.map .text) = .ok names
  induction names with
  | nil => rfl
  | cons name rest inductionHypothesis =>
      have isKey : (Value.text name).isKey = true := rfl
      rw [List.map_cons, Value.namesIn, if_pos isKey, inductionHypothesis]
      rfl

end ComponentOutline
