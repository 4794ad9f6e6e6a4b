import ComponentOutline.Component.Record
import ComponentOutline.Component.TreeView
import ComponentOutline.Value.Json

/-!
# Values that JSON can hold

`Value.jsonSafe` puts names in the place of the numbers that are not finite.  What it does is
said place by place: a value and its safe form have the same places, and at each of them the
same thing stands, unless it is a number that is not finite.  After that only an integer that
is too long keeps a value from being written.
-/

namespace ComponentOutline
namespace Value

/-! ## Places in a value -/

/-- A step from a list to one of its items or from a record to the value of one of its
entries. -/
inductive Step where
  | item (index : Nat)
  | entry (index : Nat)

/-- What stands at a place in a value. -/
def at? : List Step → Value → Option Value
  | [], value => some value
  | .item index :: place, .list items => items[index]?.bind (at? place)
  | .entry index :: place, .record entries =>
      entries[index]?.bind fun entry => at? place entry.2
  | _ :: _, _ => none

/-- What a value is apart from what stands inside of it: of a list its length remains and
of a record its keys in their order. -/
inductive Face where
  | null
  | bool (value : Bool)
  | number (value : Number)
  | text (value : Text)
  | list (length : Nat)
  | record (keys : List Text)

/-- The face of a value. -/
def face : Value → Face
  | .null => .null
  | .bool value => .bool value
  | .number value => .number value
  | .text value => .text value
  | .list items => .list items.length
  | .record entries => .record (entries.map Prod.fst)

/-- A number that is not finite, and its name. -/
inductive IsNonFinite : Value → String → Prop where
  | nan : IsNonFinite (.number (.float .nan)) "NaN"
  | positive : IsNonFinite (.number (.float (.infinite false))) "Infinity"
  | negative : IsNonFinite (.number (.float (.infinite true))) "-Infinity"

/-- Nowhere in a value stands a number that is not finite. -/
def IsFinite (value : Value) : Prop :=
  ∀ place part name, value.at? place = some part → ¬ IsNonFinite part name

theorem IsFinite.item
    {items : List Value}
    (finite : (Value.list items).IsFinite)
    {item : Value}
    (isItem : item ∈ items) :
    item.IsFinite := by
  obtain ⟨index, found⟩ := List.getElem?_of_mem isItem
  intro place part name stands
  refine finite (.item index :: place) part name ?_
  rw [at?, found]
  exact stands

theorem IsFinite.entry
    {entries : List (Text × Value)}
    (finite : (Value.record entries).IsFinite)
    {entry : Text × Value}
    (isEntry : entry ∈ entries) :
    entry.2.IsFinite := by
  obtain ⟨index, found⟩ := List.getElem?_of_mem isEntry
  intro place part name stands
  refine finite (.entry index :: place) part name ?_
  rw [at?, found]
  exact stands

/-! ## What the safe form changes -/

theorem jsonSafeItems_eq (items : List Value) : jsonSafeItems items = items.map jsonSafe := by
  induction items with
  | nil => rfl
  | cons item rest inductionHypothesis => rw [jsonSafeItems, inductionHypothesis, List.map_cons]

theorem jsonSafeEntries_eq (entries : List (Text × Value)) :
    jsonSafeEntries entries = entries.map fun entry => (entry.1, entry.2.jsonSafe) := by
  induction entries with
  | nil => rfl
  | cons entry rest inductionHypothesis =>
      rw [jsonSafeEntries, inductionHypothesis, List.map_cons]

@[simp] theorem jsonSafe_list (items : List Value) :
    (Value.list items).jsonSafe = .list (items.map jsonSafe) := by
  rw [jsonSafe, jsonSafeItems_eq]

@[simp] theorem jsonSafe_record (entries : List (Text × Value)) :
    (Value.record entries).jsonSafe =
      .record (entries.map fun entry => (entry.1, entry.2.jsonSafe)) := by
  rw [jsonSafe, jsonSafeEntries_eq]

/-- Of a part and what stands in its place: a number that is not finite is replaced by its
name, and anything else keeps its face. -/
def IsReplacedBy (part safe : Value) : Prop :=
  (∃ name, IsNonFinite part name ∧ safe = .string name) ∨
    (∀ name, ¬ IsNonFinite part name) ∧ safe.face = part.face

/-- What a value becomes has its face, or it is the name of a number that is not finite. -/
theorem isReplacedBy_jsonSafe (value : Value) : IsReplacedBy value value.jsonSafe := by
  cases value with
  | number number =>
      cases number with
      | whole value => exact .inr ⟨nofun, rfl⟩
      | float value =>
          cases value with
          | nan => exact .inl ⟨"NaN", .nan, rfl⟩
          | infinite negative =>
              cases negative with
              | false => exact .inl ⟨"Infinity", .positive, rfl⟩
              | true => exact .inl ⟨"-Infinity", .negative, rfl⟩
          | finite negative significand exponent => exact .inr ⟨nofun, rfl⟩
  | list items => exact .inr ⟨nofun, by simp [face]⟩
  | record entries => exact .inr ⟨nofun, by simp [face]⟩
  | _ => exact .inr ⟨nofun, rfl⟩

/-- Nothing stands inside of a number, whatever takes its place. -/
theorem at?_jsonSafe_number (number : Number) (step : Step) (place : List Step) :
    (Value.number number).jsonSafe.at? (step :: place) = none := by
  obtain ⟨name, -, isName⟩ | ⟨-, sameFace⟩ := isReplacedBy_jsonSafe (.number number)
  · rw [isName]
    cases step with
    | item index => rfl
    | entry index => rfl
  · cases safe : (Value.number number).jsonSafe with
    | list items => rw [safe] at sameFace; cases sameFace
    | record entries => rw [safe] at sameFace; cases sameFace
    | _ => cases step <;> rfl

/-- What stands at a place in the safe form is the safe form of what stood there. -/
theorem at?_jsonSafe (place : List Step) (value : Value) :
    value.jsonSafe.at? place = (value.at? place).map jsonSafe := by
  induction place generalizing value with
  | nil => rfl
  | cons step place inductionHypothesis =>
      cases step with
      | item index =>
          cases value with
          | list items =>
              rw [jsonSafe_list, at?, at?, List.getElem?_map]
              cases items[index]? with
              | none => rfl
              | some item => exact inductionHypothesis item
          | record entries => rw [jsonSafe_record]; rfl
          | number number => exact at?_jsonSafe_number number (.item index) place
          | _ => rfl
      | entry index =>
          cases value with
          | record entries =>
              rw [jsonSafe_record, at?, at?, List.getElem?_map]
              cases entries[index]? with
              | none => rfl
              | some entry => exact inductionHypothesis entry.2
          | list items => rw [jsonSafe_list]; rfl
          | number number => exact at?_jsonSafe_number number (.entry index) place
          | _ => rfl

/-- What stands at a place is kept or replaced, and nothing else comes to stand there. -/
theorem rel_at?_jsonSafe (place : List Step) (value : Value) :
    Option.Rel IsReplacedBy (value.at? place) (value.jsonSafe.at? place) := by
  rw [at?_jsonSafe]
  cases value.at? place with
  | none => exact .none
  | some part => exact .some (isReplacedBy_jsonSafe part)

/-- What has been replaced is finite. -/
theorem IsReplacedBy.not_isNonFinite
    {part safe : Value}
    (replaced : IsReplacedBy part safe)
    (name : String) :
    ¬ IsNonFinite safe name := by
  obtain ⟨-, -, rfl⟩ | ⟨finite, sameFace⟩ := replaced
  · nofun
  · intro nonFinite
    have same : safe = part := by
      cases nonFinite <;> cases part <;> cases sameFace <;> rfl
    exact finite name (same ▸ nonFinite)

/-- No non-finite number is left. -/
theorem isFinite_jsonSafe (value : Value) : value.jsonSafe.IsFinite := by
  intro place safe name stands
  have related := rel_at?_jsonSafe place value
  rw [stands] at related
  generalize value.at? place = part at related
  cases related with
  | some replaced => exact replaced.not_isNonFinite name

/-- A value without numbers that are not finite is its own safe form. -/
theorem jsonSafe_of_isFinite (value : Value) : value.IsFinite → value.jsonSafe = value := by
  induction value using Value.induction with
  | number number =>
      intro finite
      obtain ⟨name, nonFinite, -⟩ | ⟨-, sameFace⟩ := isReplacedBy_jsonSafe (.number number)
      · exact absurd nonFinite (finite [] _ name rfl)
      · cases safe : (Value.number number).jsonSafe <;> rw [safe] at sameFace <;> cases sameFace
        rfl
  | list items inductionHypothesis =>
      intro finite
      have each : ∀ item ∈ items, item.jsonSafe = item :=
        fun item isItem => inductionHypothesis item isItem (finite.item isItem)
      rw [jsonSafe_list, List.map_congr_left each, List.map_id']
  | record entries inductionHypothesis =>
      intro finite
      have each : ∀ entry ∈ entries, (entry.1, entry.2.jsonSafe) = entry := by
        intro entry isEntry
        rw [inductionHypothesis entry isEntry (finite.entry isEntry)]
      rw [jsonSafe_record, List.map_congr_left each, List.map_id']
  | null => intro _; rfl
  | bool value => intro _; rfl
  | text value => intro _; rfl

/-- Only a value without non-finite numbers stays the same. -/
theorem jsonSafe_eq_self_iff (value : Value) : value.jsonSafe = value ↔ value.IsFinite := by
  constructor
  · intro same
    rw [← same]
    exact isFinite_jsonSafe value
  · exact jsonSafe_of_isFinite value

theorem jsonSafe_jsonSafe (value : Value) : value.jsonSafe.jsonSafe = value.jsonSafe :=
  jsonSafe_of_isFinite _ (isFinite_jsonSafe value)

/-! ## Writing the safe form -/

/-- Whether a value was written, when nothing but the length of an integer can be in the
way. -/
def outcome (writable : Bool) : Except ConversionFault Unit :=
  if writable then .ok () else .error .tooLongToWrite

/-- A step that writes has this outcome, whatever was written before. -/
def EndsIn (step : Writing Unit) (writable : Bool) : Prop :=
  ∀ before, (step before).1 = outcome writable

theorem endsIn_put (text : String) : EndsIn (Writing.put text) true :=
  fun _ => rfl

/-- Two steps write if both of them can. -/
theorem EndsIn.bind
    {step : Writing Unit}
    {next : Unit → Writing Unit}
    {writable alsoWritable : Bool}
    (first : EndsIn step writable)
    (second : ∀ done, EndsIn (next done) alsoWritable) :
    EndsIn (step >>= next) (writable && alsoWritable) := by
  intro before
  have ends := first before
  rw [Effect.bind_apply]
  cases stepped : step before with
  | mk result between =>
      rw [stepped] at ends
      subst ends
      cases writable with
      | true => exact second () between
      | false => rfl

theorem areWritable_eq (items : List Value) : areWritable items = items.all isWritable := by
  induction items with
  | nil => rfl
  | cons item rest inductionHypothesis => rw [areWritable, inductionHypothesis, List.all_cons]

theorem entriesWritable_eq (entries : List (Text × Value)) :
    entriesWritable entries = entries.all fun entry => entry.2.isWritable := by
  induction entries with
  | nil => rfl
  | cons entry rest inductionHypothesis =>
      rw [entriesWritable, inductionHypothesis, List.all_cons]

/-- Writing an integer fails in one way. -/
theorem writeInteger_cases (value : Int) :
    (∃ numeral, writeInteger value = .ok numeral) ∨
      writeInteger value = .error .tooLongToWrite := by
  unfold writeInteger
  by_cases long : digitLimit < (toString value.natAbs).length
  · exact .inr (if_pos long)
  · exact .inl ⟨_, if_neg long⟩

/-- A number can be written if it is not too long. -/
theorem endsIn_number (number : Number) (level : Nat) (pending : String) :
    EndsIn ((Value.number number).jsonSafe.writeJson level pending)
      (Value.number number).isWritable := by
  cases number with
  | whole value =>
      intro before
      obtain ⟨numeral, written⟩ | tooLong := writeInteger_cases value
      · simp [jsonSafe, writeJson, Number.jsonNumeral, isWritable, written, outcome,
          Effect.bind_apply, Writing.put, Except.isOk, Except.toBool]
      · simp [jsonSafe, writeJson, Number.jsonNumeral, isWritable, tooLong, outcome,
          Effect.bind_apply, Except.isOk, Except.toBool]
  | float value =>
      cases value with
      | nan => exact endsIn_put _
      | infinite negative => cases negative <;> exact endsIn_put _
      | finite negative significand exponent => exact fun _ => rfl

/-- A list can be written if each item can. -/
theorem endsIn_writeItems
    {items : List Value}
    (each : ∀ item ∈ items, ∀ level pending,
      EndsIn (item.jsonSafe.writeJson level pending) item.isWritable)
    (level : Nat)
    (mark : String) :
    EndsIn (writeItems level mark (items.map jsonSafe)) (items.all isWritable) := by
  induction items generalizing mark with
  | nil => exact fun _ => rfl
  | cons item rest inductionHypothesis =>
      obtain ⟨first, others⟩ := List.forall_mem_cons.1 each
      exact (first level _).bind fun _ => inductionHypothesis others ","

theorem endsIn_writeEntries
    {entries : List (Text × Value)}
    (each : ∀ entry ∈ entries, ∀ level pending,
      EndsIn (entry.2.jsonSafe.writeJson level pending) entry.2.isWritable)
    (level : Nat)
    (mark : String) :
    EndsIn (writeEntries level mark (entries.map fun entry => (entry.1, entry.2.jsonSafe)))
      (entries.all fun entry => entry.2.isWritable) := by
  induction entries generalizing mark with
  | nil => exact fun _ => rfl
  | cons entry rest inductionHypothesis =>
      obtain ⟨first, others⟩ := List.forall_mem_cons.1 each
      exact (endsIn_put _).bind fun _ =>
        (first level "").bind fun _ => inductionHypothesis others ","

/-- The safe form of a value is written exactly if all its integers are short enough. -/
theorem endsIn_jsonSafe (value : Value) :
    ∀ level pending, EndsIn (value.jsonSafe.writeJson level pending) value.isWritable := by
  induction value using Value.induction with
  | null => exact fun _ _ => endsIn_put _
  | bool value => exact fun _ _ => endsIn_put _
  | text value => exact fun _ _ => endsIn_put _
  | number number => exact endsIn_number number
  | list items inductionHypothesis =>
      intro level pending
      rw [jsonSafe_list, isWritable, areWritable_eq]
      have inside := endsIn_writeItems inductionHypothesis (level + 1) "["
      cases items with
      | nil => exact endsIn_put _
      | cons item rest =>
          have whole := (endsIn_put pending).bind fun _ =>
            inside.bind fun _ => endsIn_put (jsonBreak level ++ "]")
          rwa [Bool.true_and, Bool.and_true] at whole
  | record entries inductionHypothesis =>
      intro level pending
      rw [jsonSafe_record, isWritable, entriesWritable_eq]
      have inside := endsIn_writeEntries inductionHypothesis (level + 1) "\x7b"
      cases entries with
      | nil => exact endsIn_put _
      | cons entry rest =>
          have whole := (endsIn_put pending).bind fun _ =>
            inside.bind fun _ => endsIn_put (jsonBreak level ++ "\x7d")
          rwa [Bool.true_and, Bool.and_true] at whole

end Value

namespace Descriptor

theorem isWritable_stateEntry (entry : StateEntry) :
    entry.record.isWritable = entry.value.isWritable := by
  simp [StateEntry.record, Value.isWritable, Value.entriesWritable]

/-- Whether the state values of a component can be written. -/
def hasWritableState (component : Descriptor) : Bool :=
  component.state.all fun entry => entry.value.isWritable

mutual

/-- The record of an outline can be written exactly if its state values can. -/
theorem isWritable_record : (component : Descriptor) →
    component.record.isWritable = component.isWritable
  | .mk name state props children => by
      have states : Value.areWritable (state.map StateEntry.record) =
          state.all fun entry => entry.value.isWritable := by
        rw [Value.areWritable_eq, List.all_map]
        exact congrArg state.all (funext isWritable_stateEntry)
      have named : Value.areWritable (props.map propRecord) = true := by
        rw [Value.areWritable_eq, List.all_map, List.all_eq_true]
        exact fun _ _ => rfl
      have inside := areWritable_records children
      have parted : (Descriptor.mk name state props children).isWritable =
          ((state.all fun entry => entry.value.isWritable) &&
            (preorderAll children).all hasWritableState) := rfl
      simp [record, Value.isWritable, Value.entriesWritable, Value.string, states, named, inside,
        parted]

/-- The records of components are written if the states of them and of all their
descendants are. -/
theorem areWritable_records : (components : List Descriptor) →
    Value.areWritable (records components) = (preorderAll components).all hasWritableState
  | [] => rfl
  | component :: rest => by
      rw [records, Value.areWritable, isWritable_record component, areWritable_records rest,
        preorderAll, List.all_cons, List.all_append, ← Bool.and_assoc]
      rfl

end

/-- The record of an outline is written as JSON exactly if its tree can be shown: if no
integer in a state is too long. -/
theorem json_record (component : Descriptor) :
    component.record.jsonSafe.json.1 = Value.outcome component.isWritable := by
  rw [← isWritable_record]
  exact Value.endsIn_jsonSafe component.record 0 "" ""

end Descriptor
namespace Value

/-- In the safe form of a value no number stands that is not finite.  The safe form has the
places of the value: where a number stood that is not finite its name stands, and anywhere
else the same as before, with as many items or the same keys in the same order.  So it is
the value itself exactly if the value has no such number, and it is its own safe form.
Nothing but an integer that is too long keeps it, or that of an outline, from being written. -/
theorem jsonSafe_replaces_exactly_nonfinite (value : Value) :
    value.jsonSafe.IsFinite ∧
      (∀ place, Option.Rel IsReplacedBy (value.at? place) (value.jsonSafe.at? place)) ∧
      (value.jsonSafe = value ↔ value.IsFinite) ∧
      value.jsonSafe.jsonSafe = value.jsonSafe ∧
      value.jsonSafe.json.1 = outcome value.isWritable ∧
      ∀ component : Descriptor,
        component.record.jsonSafe.json.1 = outcome component.isWritable := by
  refine ⟨isFinite_jsonSafe value, fun place => rel_at?_jsonSafe place value,
    jsonSafe_eq_self_iff value, jsonSafe_jsonSafe value, ?_, Descriptor.json_record⟩
  exact endsIn_jsonSafe value 0 "" ""

/-- In lists and records inside of each other only the numbers that are not finite change. -/
example :
    (Value.list [.record [(.ofString "low", .number (.float (.infinite true))),
        (.ofString "name", .string "NaN")], .list [.number (.float .nan), .int 0]]).jsonSafe =
      .list [.record [(.ofString "low", .string "-Infinity"),
        (.ofString "name", .string "NaN")], .list [.string "NaN", .int 0]] := rfl

end Value
end ComponentOutline
