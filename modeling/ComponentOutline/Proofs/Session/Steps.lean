import ComponentOutline.Proofs.Parsing.Verdict
import ComponentOutline.Session

/-!
# What one step of a session does

A step changes the settings, a reader or nothing.  The creation of a reader looks at some
settings, and an extraction looks at others; nothing else that a step does depends on the
settings.  What becomes of a reader when it is used depends on the reader and on the source
alone.
-/

namespace ComponentOutline

namespace Settings

/-- The values of settings, each given by its group, its key and what it falls back on. -/
def valuesOf (wanted : List (String × String × Value)) (settings : Settings) : List Value :=
  wanted.map fun setting => settings.lookup setting.1 setting.2.1 setting.2.2

/-- The settings that the creation of a reader looks at. -/
def creationKeys : List (String × String × Value) :=
  [("parsing", "dialect", .string "tsx"), ("parsing", "strict", .bool true),
    ("parsing", "cache_size", .int 128)]

/-- The settings that an extraction looks at. -/
def extractionKeys : List (String × String × Value) :=
  [("extraction", "factory_callees", .list [.string "createClass"]),
    ("extraction", "state_supplier", .string "getInitialState"),
    ("extraction", "base_components", .list [.string "Component"])]

variable {wanted : List (String × String × Value)} {settings other : Settings}

theorem lookup_eq_of_valuesOf
    {setting : String × String × Value}
    (same : settings.valuesOf wanted = other.valuesOf wanted)
    (isWanted : setting ∈ wanted) :
    settings.lookup setting.1 setting.2.1 setting.2.2 =
      other.lookup setting.1 setting.2.1 setting.2.2 :=
  List.map_inj_left.mp same setting isWanted

/-- A setting that is the same twice, or is set now, is the same afterwards. -/
theorem lookup_assign_congr
    {group key assignedGroup assignedKey : String}
    {fallback : Value}
    (value : Value)
    (same : (group = assignedGroup ∧ key = assignedKey) ∨
      settings.lookup group key fallback = other.lookup group key fallback) :
    (settings.assign assignedGroup assignedKey value).lookup group key fallback =
      (other.assign assignedGroup assignedKey value).lookup group key fallback := by
  by_cases isSet : group = assignedGroup ∧ key = assignedKey
  · obtain ⟨rfl, rfl⟩ := isSet
    rw [lookup_assign_self, lookup_assign_self]
  · have differs := Decidable.not_and_iff_not_or_not.mp isSet
    rw [lookup_assign_of_ne differs, lookup_assign_of_ne differs]
    exact same.resolve_left isSet

/-- Settings that agree still agree after one value is set in both. -/
theorem valuesOf_assign_congr
    (same : settings.valuesOf wanted = other.valuesOf wanted)
    (group key : String)
    (value : Value) :
    (settings.assign group key value).valuesOf wanted =
      (other.assign group key value).valuesOf wanted := by
  apply List.map_congr_left
  intro setting isWanted
  exact lookup_assign_congr value (.inr (lookup_eq_of_valuesOf same isWanted))

/-- A value that is set in one group changes no other. -/
theorem valuesOf_assign_of_notMem
    {group : String}
    (avoids : ∀ setting ∈ wanted, setting.1 ≠ group)
    (key : String)
    (value : Value)
    (settings : Settings) :
    (settings.assign group key value).valuesOf wanted = settings.valuesOf wanted := by
  apply List.map_congr_left
  intro setting isWanted
  exact lookup_assign_of_ne (.inl (avoids setting isWanted)) _ _ _

end Settings

/-- A new reader depends on the settings of parsing alone. -/
theorem Reader.create_congr
    {settings other : Settings}
    (same : settings.valuesOf Settings.creationKeys = other.valuesOf Settings.creationKeys)
    (dialect strict : Value) :
    Reader.create dialect strict settings = Reader.create dialect strict other := by
  have sameDialect :
      settings.lookup "parsing" "dialect" (.string "tsx") =
        other.lookup "parsing" "dialect" (.string "tsx") :=
    Settings.lookup_eq_of_valuesOf same (.head _)
  have sameStrictness :
      settings.lookup "parsing" "strict" (.bool true) =
        other.lookup "parsing" "strict" (.bool true) :=
    Settings.lookup_eq_of_valuesOf same (.tail _ (.head _))
  have sameCapacity :
      settings.lookup "parsing" "cache_size" (.int 128) =
        other.lookup "parsing" "cache_size" (.int 128) :=
    Settings.lookup_eq_of_valuesOf same (.tail _ (.tail _ (.head _)))
  simp only [Reader.create, sameDialect, sameStrictness, sameCapacity]

/-- A search depends on the settings of extraction alone. -/
theorem Pattern.search_congr
    {settings other : Settings}
    (same : settings.valuesOf Settings.extractionKeys =
      other.valuesOf Settings.extractionKeys)
    (root : Node)
    (pattern : Pattern) :
    pattern.search settings root = pattern.search other root := by
  have sameCallees :
      settings.lookup "extraction" "factory_callees" (.list [.string "createClass"]) =
        other.lookup "extraction" "factory_callees" (.list [.string "createClass"]) :=
    Settings.lookup_eq_of_valuesOf same (.head _)
  have sameSupplier :
      settings.lookup "extraction" "state_supplier" (.string "getInitialState") =
        other.lookup "extraction" "state_supplier" (.string "getInitialState") :=
    Settings.lookup_eq_of_valuesOf same (.tail _ (.head _))
  have sameBases :
      settings.lookup "extraction" "base_components" (.list [.string "Component"]) =
        other.lookup "extraction" "base_components" (.list [.string "Component"]) :=
    Settings.lookup_eq_of_valuesOf same (.tail _ (.tail _ (.head _)))
  cases pattern with
  | factoryCall =>
      simp only [search, FactoryOptions.ofValues, sameCallees, sameSupplier]
  | classDeclaration =>
      simp only [search, ClassOptions.ofValue, sameBases]

namespace Reading

/-- An extraction depends on the settings that it looks up, and on no others. -/
theorem extract_congr
    {settings other : Settings}
    (same : settings.valuesOf Settings.extractionKeys =
      other.valuesOf Settings.extractionKeys)
    (grammars : Grammars)
    (code pattern : Value) :
    extract grammars settings code pattern = extract grammars other code pattern := by
  have sameOutline : ∀ root pattern,
      Extraction.byPattern settings pattern root = Extraction.byPattern other pattern root := by
    intro root pattern
    rw [Extraction.byPattern, Extraction.byPattern, Pattern.search_congr same]
  simp only [extract, Extraction.byEither, sameOutline]

/-- What becomes of a reader does not depend on what is extracted from its tree. -/
theorem extract_reader
    (grammars : Grammars)
    (settings : Settings)
    (code pattern : Value)
    (state : Reader × Log) :
    (extract grammars settings code pattern state).2.1 =
      (parse grammars code .null state).2.1 := by
  rw [extract, Effect.bind_apply]
  generalize parse grammars code .null state = outcome
  obtain ⟨result, reader, log⟩ := outcome
  cases result with
  | error failure => rfl
  | ok root =>
      simp only
      split
      · rfl
      · rw [Effect.bind_apply, Effect.ofExcept_apply]
        cases Pattern.ofValue pattern with
        | error failure => rfl
        | ok chosen => rfl

end Reading

namespace Session

namespace Step

/-- Whether a step has the reader with a name parse or extract. -/
def uses (id : String) : Step → Bool
  | .parse name _ _ => name == id
  | .extract name _ _ => name == id
  | _ => false

/-- Whether a step creates the reader with a name. -/
def creates (id : String) : Step → Bool
  | .create name _ _ => name == id
  | .createFor name _ _ => name == id
  | _ => false

/-- The settings that what a reader answers to a step depends on. -/
def consulted : Step → List (String × String × Value)
  | .extract _ _ _ => Settings.extractionKeys
  | _ => []

/-- The settings after a step. -/
def settingsAfter (settings : Settings) : Step → Settings
  | .setSetting group key value => settings.assign group key value
  | .resetSettings => Settings.default
  | _ => settings

/-- The reader with a name after a step, from the one before it.  A failed creation leaves
the reader that is there. -/
def readerAfter
    (grammars : Grammars)
    (id : String)
    (settings : Settings)
    (reader : Option Reader) : Step → Option Reader
  | .create name dialect strict =>
      if name = id then (Reader.create dialect strict settings).toOption.or reader else reader
  | .createFor name path strict =>
      if name = id then (Reader.createFor path strict settings).toOption.or reader else reader
  | .parse name code markup =>
      if name = id then
        reader.map fun reader => (Reading.parse grammars code markup (reader, [])).2.1
      else reader
  | .extract name code _ =>
      if name = id then
        reader.map fun reader => (Reading.parse grammars code .null (reader, [])).2.1
      else reader
  | _ => reader

variable {id : String} {settings other : Settings} {step : Step}

/-- A use of a reader looks at no other settings than an extraction does. -/
theorem consulted_subset_of_uses (uses : step.uses id = true) :
    step.consulted ⊆ Settings.extractionKeys := by
  cases step with
  | parse name code markup => exact List.nil_subset _
  | extract name code pattern => exact List.Subset.refl _
  | getSetting | setSetting | resetSettings | create | createFor => cases uses

/-- A step brings the same settings forward from sessions that agree on them. -/
theorem valuesOf_settingsAfter_congr
    {wanted : List (String × String × Value)}
    (same : settings.valuesOf wanted = other.valuesOf wanted)
    (step : Step) :
    (step.settingsAfter settings).valuesOf wanted =
      (step.settingsAfter other).valuesOf wanted := by
  cases step with
  | setSetting group key value => exact Settings.valuesOf_assign_congr same _ _ _
  | resetSettings => rfl
  | getSetting | create | createFor | parse | extract => exact same

/-- What becomes of a reader depends on the settings only where it is created. -/
theorem readerAfter_congr
    (same : step.creates id = true →
      settings.valuesOf Settings.creationKeys = other.valuesOf Settings.creationKeys)
    (grammars : Grammars)
    (reader : Option Reader) :
    step.readerAfter grammars id settings reader =
      step.readerAfter grammars id other reader := by
  cases step with
  | create name dialect strict =>
      simp only [readerAfter]
      split
      · next isThis => rw [Reader.create_congr (same (beq_iff_eq.mpr isThis))]
      · rfl
  | createFor name path strict =>
      simp only [readerAfter, Reader.createFor]
      split
      · next isThis => rw [Reader.create_congr (same (beq_iff_eq.mpr isThis))]
      · rfl
  | getSetting | setSetting | resetSettings | parse | extract => rfl

end Step

section

variable {α : Type} {session : Session} {id : String}
  (step : Reading α) (answer : Except Failure α → Usage → Answer)

theorem useReader_of_none (absent : session.readers.get? id = none) :
    useReader id step answer session = (.unknownReader, session, []) := by
  rw [useReader, absent]

/-- Using a reader changes that reader only. -/
theorem useReader_of_some
    {reader : Reader}
    (found : session.readers.get? id = some reader) :
    useReader id step answer session =
      (answer (step (reader, [])).1 (usage reader (step (reader, [])).2.1),
        { session with readers := session.readers.insert id (step (reader, [])).2.1 },
        (step (reader, [])).2.2) := by
  rw [useReader, found]
  rfl

theorem useReader_settings (id : String) (session : Session) :
    (useReader id step answer session).2.1.settings = session.settings := by
  cases found : session.readers.get? id with
  | none => rw [useReader_of_none step answer found]
  | some reader => rw [useReader_of_some step answer found]

/-- Using a reader changes that reader and no other. -/
theorem useReader_get? (id name : String) (session : Session) :
    (useReader name step answer session).2.1.readers.get? id =
      if name = id then (session.readers.get? id).map fun reader => (step (reader, [])).2.1
      else session.readers.get? id := by
  cases found : session.readers.get? name with
  | none =>
      rw [useReader_of_none step answer found]
      split
      · next same =>
          rw [← same, found]
          rfl
      · rfl
  | some reader =>
      rw [useReader_of_some step answer found]
      split
      · next same =>
          subst same
          rw [found]
          exact Entries.get?_insert_self name _ session.readers
      · next differs => exact Entries.get?_insert_of_ne (Ne.symm differs) _ session.readers

/-- What using a reader answers and logs depends on that reader alone. -/
theorem useReader_congr
    {other : Session}
    (sameReader : session.readers.get? id = other.readers.get? id) :
    (useReader id step answer session).1 = (useReader id step answer other).1 ∧
      (useReader id step answer session).2.2 = (useReader id step answer other).2.2 := by
  cases found : other.readers.get? id with
  | none =>
      rw [useReader_of_none step answer (sameReader.trans found),
        useReader_of_none step answer found]
      exact ⟨rfl, rfl⟩
  | some reader =>
      rw [useReader_of_some step answer (sameReader.trans found),
        useReader_of_some step answer found]
      exact ⟨rfl, rfl⟩

end

theorem addReader_settings
    (id : String)
    (created : Except Failure Reader)
    (session : Session) :
    (addReader id created session).2.settings = session.settings := by
  cases created with
  | ok reader => rfl
  | error failure => rfl

/-- A reader that is created takes the place of an earlier one of its name; a failed
creation leaves that one. -/
theorem addReader_get?
    (id name : String)
    (created : Except Failure Reader)
    (session : Session) :
    (addReader name created session).2.readers.get? id =
      if name = id then created.toOption.or (session.readers.get? id)
      else session.readers.get? id := by
  cases created with
  | error failure => exact (ite_self _).symm
  | ok reader =>
      split
      · next same =>
          subst same
          exact Entries.get?_insert_self name reader session.readers
      · next differs => exact Entries.get?_insert_of_ne (Ne.symm differs) reader session.readers

theorem run_create
    (grammars : Grammars)
    (session : Session)
    (name : String)
    (dialect strict : Value) :
    (run grammars session (.create name dialect strict)).2.1 =
      (addReader name (Reader.create dialect strict session.settings) session).2 := by
  rw [run]

theorem run_createFor
    (grammars : Grammars)
    (session : Session)
    (name path : String)
    (strict : Value) :
    (run grammars session (.createFor name path strict)).2.1 =
      (addReader name (Reader.createFor path strict session.settings) session).2 := by
  rw [run]

/-- What a step does to the settings depends on the settings alone. -/
theorem run_settings (grammars : Grammars) (session : Session) (step : Step) :
    (run grammars session step).2.1.settings = step.settingsAfter session.settings := by
  cases step with
  | getSetting group key fallback => rfl
  | setSetting group key value => rfl
  | resetSettings => rfl
  | create name dialect strict =>
      rw [run_create, addReader_settings]
      rfl
  | createFor name path strict =>
      rw [run_createFor, addReader_settings]
      rfl
  | parse name code markup =>
      rw [run, useReader_settings]
      rfl
  | extract name code pattern =>
      rw [run, useReader_settings]
      rfl

/-- What a step does to a reader depends on the settings and on that reader. -/
theorem run_get? (grammars : Grammars) (id : String) (session : Session) (step : Step) :
    (run grammars session step).2.1.readers.get? id =
      step.readerAfter grammars id session.settings (session.readers.get? id) := by
  cases step with
  | getSetting group key fallback => rfl
  | setSetting group key value => rfl
  | resetSettings => rfl
  | create name dialect strict =>
      rw [run_create, addReader_get?, Step.readerAfter]
  | createFor name path strict =>
      rw [run_createFor, addReader_get?, Step.readerAfter]
  | parse name code markup =>
      rw [run, useReader_get?, Step.readerAfter]
      simp only [Effect.map_apply]
  | extract name code pattern =>
      rw [run, useReader_get?, Step.readerAfter]
      simp only [Reading.extract_reader]

end Session
end ComponentOutline
