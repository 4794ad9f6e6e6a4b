import ComponentOutline.Proofs.Component.Placement
import ComponentOutline.Proofs.Syntax.Occurrence

/-!
# The first find wins

The name, the state and the markup of a component are each recorded at most once, at the
first place that gives one, and what has not been recorded keeps its empty default.
These facts are stated for single steps and carried through whole surveys.
-/

namespace ComponentOutline

/-- What the first item that gives something is read as, if there is one. -/
def firstRead
    {ι α : Type}
    (gives : ι → Bool)
    (read : ι → Except Failure α)
    (items : List ι) : Except Failure (Option α) :=
  match items.find? gives with
  | none => .ok none
  | some item => (read item).map some

/-- What is recorded after some items were looked at: what was recorded before them, or
else what the first item that gives something is read as. -/
def FirstWins
    {ι α : Type}
    (gives : ι → Bool)
    (read : ι → Except Failure α)
    (items : List ι)
    (before after : Option α) : Prop :=
  match before with
  | some value => after = some value
  | none => firstRead gives read items = .ok after

section

variable
  {ι α : Type}
  {gives : ι → Bool}
  {read : ι → Except Failure α}
  {before after : Option α}

theorem firstRead_cons_of_gives
    {item : ι}
    (gave : gives item = true)
    (rest : List ι) :
    firstRead gives read (item :: rest) = (read item).map some := by
  rw [firstRead, List.find?_cons_of_pos gave]

theorem firstRead_cons_of_not
    {item : ι}
    (silent : gives item = false)
    (rest : List ι) :
    firstRead gives read (item :: rest) = firstRead gives read rest := by
  rw [firstRead, List.find?_cons_of_neg (by simp [silent])]
  rfl

namespace FirstWins

theorem nil : FirstWins gives read [] before before := by
  cases before with
  | none => rfl
  | some value => rfl

/-- An item that gives nothing leaves everything as it is. -/
theorem of_not_gives
    {item : ι}
    (silent : gives item = false) :
    FirstWins gives read [item] before before := by
  cases before with
  | none => exact firstRead_cons_of_not silent []
  | some value => rfl

/-- After something has been recorded, no item counts. -/
theorem of_isSome
    {items : List ι}
    (recorded : before.isSome = true) :
    FirstWins gives read items before before := by
  cases before with
  | none => simp at recorded
  | some value => rfl

/-- An item that gives something where nothing was known fills the place. -/
theorem of_read
    {item : ι}
    {value : α}
    (gave : gives item = true)
    (reads : read item = .ok value) :
    FirstWins gives read [item] none (some value) := by
  change firstRead gives read [item] = .ok (some value)
  rw [firstRead_cons_of_gives gave, reads]
  rfl

/-- Where each item leaves the first one in place, all of them do. -/
theorem cons
    {item : ι}
    {rest : List ι}
    {middle : Option α}
    (first : FirstWins gives read [item] before middle)
    (others : FirstWins gives read rest middle after) :
    FirstWins gives read (item :: rest) before after := by
  cases before with
  | some value =>
      cases first
      exact others
  | none =>
      change firstRead gives read [item] = .ok middle at first
      change firstRead gives read (item :: rest) = .ok after
      cases gave : gives item with
      | true =>
          rw [firstRead_cons_of_gives gave] at first ⊢
          obtain ⟨value, reads, rfl⟩ := Effect.ok_of_except_map first
          cases others
          exact first
      | false =>
          rw [firstRead_cons_of_not gave] at first ⊢
          cases first
          exact others

/-- Something is recorded exactly if it was before or an item gives it. -/
theorem isSome_eq
    {items : List ι}
    (wins : FirstWins gives read items before after) :
    after.isSome = (before.isSome || items.any gives) := by
  cases before with
  | some value =>
      cases wins
      rfl
  | none =>
      change firstRead gives read items = .ok after at wins
      rw [firstRead] at wins
      cases found : items.find? gives with
      | none =>
          rw [found] at wins
          cases wins
          have silent : items.any gives = false := by
            rw [List.any_eq_false]
            exact List.find?_eq_none.mp found
          rw [silent]
          rfl
      | some item =>
          rw [found] at wins
          obtain ⟨value, -, rfl⟩ := Effect.ok_of_except_map wins
          have gave : items.any gives = true :=
            List.any_eq_true.mpr ⟨item, List.mem_of_find?_eq_some found, List.find?_some found⟩
          rw [gave]
          rfl

/-- What every look at an item does to a record, a survey of the items does to it. -/
theorem survey
    {look : ι → Extracting Unit}
    {invariant : Progress → Prop}
    {record : Progress → Option α}
    (step : ∀ item progress later,
      invariant progress → look item progress = (.ok (), later) →
        invariant later ∧ FirstWins gives read [item] (record progress) (record later))
    (items : List ι) :
    ∀ progress later,
      invariant progress → forM items look progress = (.ok (), later) →
        invariant later ∧ FirstWins gives read items (record progress) (record later) := by
  induction items with
  | nil =>
      intro progress later holds surveyed
      cases surveyed
      exact ⟨holds, nil⟩
  | cons item rest inductionHypothesis =>
      intro progress later holds surveyed
      rw [List.forM_cons] at surveyed
      obtain ⟨_, middle, looked, others⟩ := Effect.ok_of_bind_apply surveyed
      obtain ⟨holdsStill, first⟩ := step item progress middle holds looked
      obtain ⟨holdsLater, wins⟩ := inductionHypothesis middle later holdsStill others
      exact ⟨holdsLater, first.cons wins⟩

end FirstWins

end

/-- What has been recorded of a component: nothing, or what has been read. -/
structure Records where
  name : Option String
  state : Option (List StateEntry)
  markup : Option (List String × List Descriptor)

/-- The outline that records amount to, with the defaults for what is not recorded. -/
def Records.descriptor (records : Records) : Descriptor :=
  .mk (records.name.getD "") (records.state.getD [])
    (records.markup.getD ([], [])).1 (records.markup.getD ([], [])).2

namespace Progress

/-- What has been recorded so far, by the flags. -/
def records (progress : Progress) : Records where
  name := if progress.nameFound then some progress.descriptor.name else none
  state := if progress.stateFound then some progress.descriptor.state else none
  markup :=
    if progress.markupFound then
      some (progress.descriptor.props, progress.descriptor.children)
    else none

theorem nameFound_eq (progress : Progress) :
    progress.nameFound = progress.records.name.isSome := by
  cases found : progress.nameFound <;> simp [records, found]

theorem stateFound_eq (progress : Progress) :
    progress.stateFound = progress.records.state.isSome := by
  cases found : progress.stateFound <;> simp [records, found]

theorem markupFound_eq (progress : Progress) :
    progress.markupFound = progress.records.markup.isSome := by
  cases found : progress.markupFound <;> simp [records, found]

/-- The outline holds what is recorded and nothing else, and a state is recorded only
for a component that is. -/
structure Consistent (progress : Progress) : Prop where
  descriptor_eq : progress.descriptor = progress.records.descriptor
  state_of_unnamed : progress.records.name = none → progress.records.state = none

theorem consistent_start (log : Log) : (start log).Consistent :=
  ⟨rfl, fun _ => rfl⟩

/-- What is recorded shows in what is found. -/
theorem records_eq_of_findings
    {progress other : Progress}
    (same : progress.findings = other.findings) :
    progress.records = other.records := by
  obtain ⟨descriptor, same⟩ := Prod.mk.inj same
  obtain ⟨name, same⟩ := Prod.mk.inj same
  obtain ⟨state, markup⟩ := Prod.mk.inj same
  rw [records, records, descriptor, name, state, markup]

/-- Consistency is up to the findings alone. -/
theorem Consistent.of_findings
    {progress other : Progress}
    (consistent : progress.Consistent)
    (same : other.findings = progress.findings) :
    other.Consistent := by
  have records := records_eq_of_findings same
  have descriptor : other.descriptor = progress.descriptor := (Prod.mk.inj same).1
  constructor
  · rw [descriptor, records, consistent.descriptor_eq]
  · rw [records]
    exact consistent.state_of_unnamed

end Progress

namespace Markup

theorem isElement_iff (node : Node) :
    isElement node = true ↔
      node.kind = "jsx_element" ∨ node.kind = "jsx_self_closing_element" := by
  simp [isElement, isSelfClosing]

theorem isElement_eq_false
    {node : Node}
    (noElement : node.kind ≠ "jsx_element")
    (noSelfClosing : node.kind ≠ "jsx_self_closing_element") :
    isElement node = false := by
  simp [isElement, isSelfClosing, noElement, noSelfClosing]

end Markup

namespace Extracting

open Progress

/-- A record in the log changes no finding. -/
theorem write_ok
    {record : LogRecord}
    {progress later : Progress}
    (consistent : progress.Consistent)
    (wrote : write record progress = (.ok (), later)) :
    later.Consistent ∧ later.records = progress.records := by
  cases wrote
  exact ⟨⟨consistent.descriptor_eq, consistent.state_of_unnamed⟩, rfl⟩

/-- A name is recorded as the empty one if there is none. -/
theorem recordName_ok
    {pattern : Pattern}
    {name : Option String}
    {progress later : Progress}
    (consistent : progress.Consistent)
    (recorded : recordName pattern name progress = (.ok (), later)) :
    later.Consistent ∧
      later.records = { progress.records with name := some (name.getD "") } := by
  cases recorded
  obtain ⟨⟨_, _, _, _⟩, _, _, _, _, _, _⟩ := progress
  obtain ⟨-, stateEq, propsEq, childrenEq⟩ := Descriptor.mk.inj consistent.descriptor_eq
  refine ⟨⟨?_, ?_⟩, rfl⟩
  · exact (Descriptor.mk.injEq ..).mpr ⟨rfl, stateEq, propsEq, childrenEq⟩
  · intro unnamed
    cases unnamed

/-- A state that is recorded is the value of its initializer. -/
theorem recordState_ok
    {initializer : Node}
    {progress later : Progress}
    (consistent : progress.Consistent)
    (named : progress.records.name.isSome = true)
    (recorded : recordState initializer progress = (.ok (), later)) :
    ∃ state,
      Literal.componentState initializer = .ok state ∧ later.Consistent ∧
        later.records = { progress.records with state := some state } := by
  unfold recordState at recorded
  unfold Literal.componentState
  cases read : Literal.stateEntries initializer with
  | error failure =>
      rw [read] at recorded
      cases recorded
  | ok entries =>
      rw [read] at recorded
      cases recorded
      obtain ⟨⟨_, _, _, _⟩, _, _, _, _, _, _⟩ := progress
      obtain ⟨nameEq, -, propsEq, childrenEq⟩ :=
        Descriptor.mk.inj consistent.descriptor_eq
      refine ⟨_, rfl, ⟨?_, ?_⟩, rfl⟩
      · exact (Descriptor.mk.injEq ..).mpr ⟨nameEq, rfl, propsEq, childrenEq⟩
      · intro unnamed
        have isNamed := Option.isSome_iff_ne_none.mp named
        exact absurd unnamed isNamed

/-- The props and the children that an element gives a component. -/
def readMarkup (element : Node) : Except Failure (List String × List Descriptor) := do
  let props ← Markup.props element
  let children ← Markup.components element
  return (props, children)

/-- Markup that is recorded has its props and components read. -/
theorem recordMarkup_ok
    {element : Node}
    {progress later : Progress}
    (consistent : progress.Consistent)
    (recorded : recordMarkup element progress = (.ok (), later)) :
    ∃ markup,
      readMarkup element = .ok markup ∧ later.Consistent ∧
        later.records = { progress.records with markup := some markup } := by
  unfold recordMarkup at recorded
  obtain ⟨_, _, marked, recorded⟩ := Effect.ok_of_bind_apply recorded
  cases marked
  obtain ⟨props, _, evaluatedProps, recorded⟩ := Effect.ok_of_bind_apply recorded
  obtain ⟨readProps, rfl⟩ := Prod.mk.inj evaluatedProps
  obtain ⟨_, _, kept, recorded⟩ := Effect.ok_of_bind_apply recorded
  cases kept
  obtain ⟨children, _, evaluatedChildren, recorded⟩ := Effect.ok_of_bind_apply recorded
  obtain ⟨readChildren, rfl⟩ := Prod.mk.inj evaluatedChildren
  obtain ⟨_, _, kept, recorded⟩ := Effect.ok_of_bind_apply recorded
  cases kept
  obtain ⟨tag, _, evaluatedTag, recorded⟩ := Effect.ok_of_bind_apply recorded
  obtain ⟨readTag, rfl⟩ := Prod.mk.inj evaluatedTag
  cases recorded
  rw [Markup.childComponents_result] at readChildren
  obtain ⟨⟨_, _, _, _⟩, _, _, _, _, _, _⟩ := progress
  obtain ⟨nameEq, stateEq, -, -⟩ := Descriptor.mk.inj consistent.descriptor_eq
  refine ⟨(props, children), ?_, ⟨?_, consistent.state_of_unnamed⟩, rfl⟩
  · rw [readMarkup, readProps, readChildren]
    rfl
  · exact (Descriptor.mk.injEq ..).mpr ⟨nameEq, stateEq, rfl, rfl⟩

/-- A look at an element: the first one gives the markup. -/
def lookElement (element : Node) : Extracting Unit := do
  let progress ← get
  if !progress.markupFound then
    recordMarkup element

theorem enterElement_eq (element : Node) :
    enterElement element = (do lookElement element; return .prune) := by
  unfold enterElement lookElement
  rw [bind_assoc]
  congr 1
  funext progress
  split
  · rfl
  · rfl

theorem ignores_lookElement {scope : Scope} {before : Log} (element : Node) :
    Effect.Ignores (Progress.placed scope before) (lookElement element) := by
  unfold lookElement
  apply Effect.ignores_get_bind
  · intro progress
    rfl
  · intro progress
    split
    · exact ignores_recordMarkup element
    · exact Effect.ignores_pure _

/-- What a look at an element that succeeds can do: nothing after another element, or
record the markup. -/
theorem lookElement_ok
    {element : Node}
    {progress later : Progress}
    (consistent : progress.Consistent)
    (looked : lookElement element progress = (.ok (), later)) :
    (progress.records.markup.isSome = true ∧ later = progress) ∨
    ∃ markup,
      progress.records.markup = none ∧ readMarkup element = .ok markup ∧
        later.Consistent ∧
        later.records = { progress.records with markup := some markup } := by
  unfold lookElement at looked
  rw [Effect.bind_apply_of_ok _ (Effect.get_apply progress), markupFound_eq] at looked
  cases recorded : progress.records.markup with
  | some markup =>
      rw [recorded] at looked
      cases looked
      exact .inl ⟨rfl, rfl⟩
  | none =>
      rw [recorded] at looked
      obtain ⟨markup, read, consistentLater, records⟩ := recordMarkup_ok consistent looked
      exact .inr ⟨markup, rfl, read, consistentLater, records⟩

end Extracting

/-- The markup of an outline is that of an element; without an element there is none. -/
def Descriptor.HasMarkupOf (descriptor : Descriptor) : Option Node → Prop
  | none => descriptor.props = [] ∧ descriptor.children = []
  | some element =>
      Markup.props element = .ok descriptor.props ∧
        Markup.components element = .ok descriptor.children

/-- An element determines the markup. -/
theorem Descriptor.HasMarkupOf.unique
    {descriptor other : Descriptor}
    {element : Option Node}
    (has : descriptor.HasMarkupOf element)
    (hasToo : other.HasMarkupOf element) :
    descriptor.props = other.props ∧ descriptor.children = other.children := by
  cases element with
  | none => exact ⟨has.1.trans hasToo.1.symm, has.2.trans hasToo.2.symm⟩
  | some element =>
      constructor
      · exact Except.ok.inj (has.1.symm.trans hasToo.1)
      · exact Except.ok.inj (has.2.symm.trans hasToo.2)

/-- Outlines with the same parts are the same. -/
theorem Descriptor.eq_of_parts
    {descriptor other : Descriptor}
    (name : descriptor.name = other.name)
    (state : descriptor.state = other.state)
    (markup : descriptor.props = other.props ∧ descriptor.children = other.children) :
    descriptor = other := by
  obtain ⟨_, _, _, _⟩ := descriptor
  obtain ⟨_, _, _, _⟩ := other
  exact (Descriptor.mk.injEq ..).mpr ⟨name, state, markup.1, markup.2⟩

/-- If the first element among some places gives the markup, the outline has it. -/
theorem Progress.Consistent.hasMarkupOf_first
    {progress : Progress}
    {places : List Occurrence}
    (consistent : progress.Consistent)
    (first : firstRead (fun place => Markup.isElement place.node)
      (fun place => Extracting.readMarkup place.node) places = .ok progress.records.markup) :
    progress.descriptor.HasMarkupOf
      ((places.find? fun place => Markup.isElement place.node).map Occurrence.node) := by
  rw [consistent.descriptor_eq]
  unfold firstRead at first
  cases found : places.find? fun place => Markup.isElement place.node with
  | none =>
      simp only [found] at first
      rw [Records.descriptor, ← Except.ok.inj first]
      exact ⟨rfl, rfl⟩
  | some place =>
      simp only [found] at first
      obtain ⟨markup, read, recorded⟩ := Effect.ok_of_except_map first
      obtain ⟨props, readProps, read⟩ := Effect.ok_of_except_bind read
      obtain ⟨children, readChildren, read⟩ := Effect.ok_of_except_bind read
      cases read
      rw [Records.descriptor, ← recorded]
      exact ⟨readProps, readChildren⟩

end ComponentOutline
