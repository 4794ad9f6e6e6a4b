import ComponentOutline.Command.Run
import ComponentOutline.Literal.State
import ComponentOutline.Proofs.Component.StateLine
import ComponentOutline.Proofs.Console.Printer
import ComponentOutline.Proofs.Syntax.Occurrence

/-!
# Printed outlines

An outline is printed with a line for its name, for its props, for each entry of its state and
for each component inside, whose props and state come below it.  If the names of components and
props are shown as they are, then what becomes of the outline is up to the names of its state
entries, whatever printer it goes to: if nothing in them means anything, then all of it is
shown; a tag in one of them is lost, or it breaks the print off.
-/

namespace ComponentOutline

open CodePoint Console

namespace Descriptor

/-! ## Parts of an outline -/

/-- What has a line of its own. -/
inductive Part where
  /-- The name of the component that the outline is about. -/
  | title (name : String)
  | props (names : List String)
  | state (entry : StateEntry)
  /-- The name of a component inside. -/
  | child (name : String)

namespace Part

/-- The label of a part. -/
def label (printer : Printer) : Part → Text
  | .title name => Descriptor.title name
  | .props names => Text.ofString ("[cyan]props:[/cyan] " ++ ", ".intercalate names)
  | .state entry => entry.label printer
  | .child name => childLabel name

/-- The text that a part stands for. -/
def text : Part → Text
  | .title name => Text.ofString (if name = "" then "(anonymous)" else name)
  | .props names => Text.ofString ("props: " ++ ", ".intercalate names)
  | .state entry => entry.line
  | .child name => Text.ofString ("<" ++ name ++ ">")

/-- The entry of a state that a part is. -/
def entry? : Part → Option StateEntry
  | .state entry => some entry
  | _ => none

/-- A part is shown as the text that it stands for. -/
def IsShown (printer : Printer) (page : Page) (part : Part) : Prop :=
  page.shown (part.label printer) = .ok part.text

end Part

/-- The props, if there are any. -/
def propsParts : List String → List Part
  | [] => []
  | names => [.props names]

/-- The props and the state of a component. -/
def ownParts (component : Descriptor) : List Part :=
  propsParts component.props ++ component.state.map .state

/-- The parts of an outline, from above to below. -/
def parts (descriptor : Descriptor) : List Part :=
  .title descriptor.name :: (descriptor.ownParts ++
    descriptor.descendants.flatMap fun component => .child component.name :: component.ownParts)

/-- The entries of all states in an outline, from above to below. -/
def stateEntries (descriptor : Descriptor) : List StateEntry :=
  (descriptor :: descriptor.descendants).flatMap Descriptor.state

section

variable (printer : Printer) (page : Page) (descriptor : Descriptor)

/-- The lines of an outline with all names and values as they are. -/
def plainLines : List Text :=
  (descriptor.tree printer).linesShowing page.guides (descriptor.parts.map Part.text)

/-- The names of all components and props are shown as they are. -/
def NamesAreShown : Prop :=
  ∀ part ∈ descriptor.parts, part.entry? = none → part.IsShown printer page

end

/-! ## Labels of an outline -/

variable {printer : Printer} {page : Page} {descriptor : Descriptor}

theorem entriesLabels_propsEntry (props : List String) :
    Tree.entriesLabels (propsEntry props) = (propsParts props).map (Part.label printer) := by
  cases props with
  | nil => rfl
  | cons name rest => rfl

theorem entriesLabels_state (state : List StateEntry) :
    Tree.entriesLabels (state.map fun entry => Tree.mk (entry.label printer) []) =
      (state.map Part.state).map (Part.label printer) := by
  induction state with
  | nil => rfl
  | cons entry rest inductionHypothesis =>
      rw [List.map_cons, Tree.entriesLabels, inductionHypothesis]
      rfl

mutual

/-- Below a component stand its own parts, and then those of all components inside, in pre-order. -/
theorem entriesLabels_entries :
    (descriptor : Descriptor) →
      Tree.entriesLabels (descriptor.entries printer) =
        (descriptor.ownParts ++ descriptor.descendants.flatMap fun component =>
          .child component.name :: component.ownParts).map (Part.label printer)
  | .mk name state props children => by
      rw [entries, Tree.entriesLabels_append, Tree.entriesLabels_append,
        entriesLabels_propsEntry, entriesLabels_state, entriesLabels_childEntries children,
        List.map_append, ownParts, List.map_append]
      rfl

theorem entriesLabels_childEntries :
    (children : List Descriptor) →
      Tree.entriesLabels (childEntries printer children) =
        ((preorderAll children).flatMap fun component =>
          .child component.name :: component.ownParts).map (Part.label printer)
  | [] => rfl
  | child :: rest => by
      rw [childEntries, Tree.entriesLabels, Tree.labels, entriesLabels_entries child,
        entriesLabels_childEntries rest, preorderAll]
      simp [Part.label]

end

/-- The labels of the tree of an outline are those of its parts. -/
theorem labels_tree :
    (descriptor.tree printer).labels = descriptor.parts.map (Part.label printer) := by
  rw [tree, Tree.labels, entriesLabels_entries, parts, List.map_cons]
  rfl

theorem filterMap_entry?_ownParts (component : Descriptor) :
    component.ownParts.filterMap Part.entry? = component.state := by
  have noneInProps : (propsParts component.props).filterMap Part.entry? = [] := by
    cases component.props with
    | nil => rfl
    | cons name rest => rfl
  have all (state : List StateEntry) : (state.map Part.state).filterMap Part.entry? = state := by
    rw [List.filterMap_map]
    exact List.filterMap_some
  rw [ownParts, List.filterMap_append, noneInProps, all, List.nil_append]

/-- The entries of all states stand among the parts, in their order. -/
theorem filterMap_entry?_parts (descriptor : Descriptor) :
    descriptor.parts.filterMap Part.entry? = descriptor.stateEntries := by
  have inside (components : List Descriptor) :
      (components.flatMap fun component =>
        .child component.name :: component.ownParts).filterMap Part.entry? =
        components.flatMap Descriptor.state := by
    induction components with
    | nil => rfl
    | cons component rest inductionHypothesis =>
        rw [List.flatMap_cons, List.filterMap_append, List.filterMap_cons_none rfl,
          filterMap_entry?_ownParts, inductionHypothesis, List.flatMap_cons]
  rw [parts, List.filterMap_cons_none rfl, List.filterMap_append, filterMap_entry?_ownParts, inside,
    stateEntries, List.flatMap_cons]

/-- Every entry of a state has a part of its own. -/
theorem state_mem_parts {entry : StateEntry} (isEntry : entry ∈ descriptor.stateEntries) :
    .state entry ∈ descriptor.parts := by
  rw [← filterMap_entry?_parts, List.mem_filterMap] at isEntry
  obtain ⟨part, isPart, isSame⟩ := isEntry
  cases part with
  | state other =>
      cases isSame
      exact isPart
  | title name => cases isSame
  | props names => cases isSame
  | child name => cases isSame

/-- With the names shown, only entries of states may not be. -/
theorem isShown_or_eq_state
    {part : Part}
    (named : descriptor.NamesAreShown printer page)
    (isPart : part ∈ descriptor.parts) :
    part.IsShown printer page ∨ ∃ entry ∈ descriptor.stateEntries, part = .state entry := by
  cases part with
  | state entry =>
      refine .inr ⟨entry, ?_, rfl⟩
      rw [← filterMap_entry?_parts]
      exact List.mem_filterMap.2 ⟨_, isPart, rfl⟩
  | title name => exact .inl (named _ isPart rfl)
  | props names => exact .inl (named _ isPart rfl)
  | child name => exact .inl (named _ isPart rfl)

/-! ## Plain names -/

/-- Plain names are plain with commas between them, too. -/
theorem isPlain_ofString_intercalate
    {names : List String}
    (plain : ∀ name ∈ names, (Text.ofString name).IsPlain) :
    (Text.ofString (", ".intercalate names)).IsPlain := by
  simp only [Text.IsPlain, Text.ofString, List.forall_mem_map] at plain ⊢
  exact forall_mem_intercalate (forall_mem_of_all rfl) plain

section

variable (rules : printer.Rules page)

include rules

/-- A plain word between the tags of basic styles is shown as the word. -/
theorem shown_styled
    {styles : List Text}
    {word : Text}
    (someStyle : styles ≠ [])
    (basic : ∀ style ∈ styles, style ∈ basicStyles)
    (nonempty : word ≠ [])
    (plain : word.IsPlain) :
    page.shown (styled styles word) = .ok word := by
  have nothing : Text.IsPlain [] := fun _ isIn => absurd isIn List.not_mem_nil
  have shown := rules.styled styles word [] someStyle basic nonempty (plain.isLiteral [])
    plain.opening_notMem plain.backslash_notMem
  rw [List.append_nil, rules.literal [] (nothing.isLiteral [])] at shown
  rw [shown, Except.map, List.append_nil]

/-- A plain title is shown as the name, and an empty one as `(anonymous)`. -/
theorem isShown_title {name : String} (plain : (Text.ofString name).IsPlain) :
    (Part.title name).IsShown printer page := by
  rw [Part.IsShown, Part.label, Part.text, title]
  by_cases anonymous : name = ""
  · have written : Text.ofString ("[bold green]" ++ "[dim](anonymous)[/dim]" ++ "[/bold green]") =
        styled [Text.ofString "bold green", Text.ofString "dim"]
          (Text.ofString "(anonymous)") := by decide
    rw [if_pos anonymous, if_pos anonymous, written]
    exact shown_styled rules (by decide) (by decide) (by decide) (by decide)
  · have nonempty : Text.ofString name ≠ [] := by
      rw [Text.ofString, ne_eq, List.map_eq_nil_iff]
      exact fun empty => anonymous (String.toList_eq_nil_iff.1 empty)
    have written : Text.ofString ("[bold green]" ++ name ++ "[/bold green]") =
        styled [Text.ofString "bold green"] (Text.ofString name) := by
      rw [Text.ofString_append, Text.ofString_append, List.append_assoc]
      rfl
    rw [if_neg anonymous, if_neg anonymous, written]
    exact shown_styled rules (by decide) (by decide) nonempty plain

theorem isShown_child {name : String} (plain : (Text.ofString name).IsPlain) :
    (Part.child name).IsShown printer page := by
  have written : Text.ofString ("[bold]<" ++ name ++ ">[/bold]") =
      styled [Text.ofString "bold"] (Text.ofString ("<" ++ name ++ ">")) := by
    rw [styled_singleton]
    simp only [Text.ofString_append, List.append_assoc]
    rfl
  have plainWord : (Text.ofString ("<" ++ name ++ ">")).IsPlain := by
    rw [Text.ofString_append, Text.ofString_append]
    have plainStart : (Text.ofString "<").IsPlain := by decide
    exact (plainStart.append plain).append (by decide)
  have nonempty : Text.ofString ("<" ++ name ++ ">") ≠ [] := by
    rw [Text.ofString_append, Text.ofString_append]
    exact List.cons_ne_nil _ _
  rw [Part.IsShown, Part.label, Part.text, childLabel, written]
  exact shown_styled rules (by decide) (by decide) nonempty plainWord

theorem isShown_props
    {names : List String}
    (plain : ∀ name ∈ names, (Text.ofString name).IsPlain) :
    (Part.props names).IsShown printer page := by
  have plainAfter : (Text.ofString (" " ++ ", ".intercalate names)).IsPlain := by
    have plainBlank : (Text.ofString " ").IsPlain := by decide
    rw [Text.ofString_append]
    exact plainBlank.append (isPlain_ofString_intercalate plain)
  have literal : IsLiteral (Text.ofString "props:") [] := by
    have plainStart : (Text.ofString "props").IsPlain := by decide
    have parts : Text.ofString "props:" = Text.ofString "props" ++ [colon] := by decide
    refine ⟨not_startsTag_of_notMem (by decide), not_hasSlashedBracket_of_notMem (by decide),
      not_hasCode_of_count (by decide), ?_⟩
    rw [parts]
    exact List.forall_mem_append.2
      ⟨plainStart.isControl_eq_false, List.forall_mem_singleton.2 (by decide)⟩
  have isLabel : Text.ofString ("[cyan]props:[/cyan] " ++ ", ".intercalate names) =
      styled [Text.ofString "cyan"] (Text.ofString "props:") ++
        Text.ofString (" " ++ ", ".intercalate names) := by
    simp only [Text.ofString_append]
    rfl
  have isText : Text.ofString ("props: " ++ ", ".intercalate names) =
      Text.ofString "props:" ++ Text.ofString (" " ++ ", ".intercalate names) := by
    simp only [Text.ofString_append]
    rfl
  rw [Part.IsShown, Part.label, Part.text, isLabel, isText,
    rules.styled _ _ _ (by decide) (by decide) (by decide) literal (by decide) (by decide),
    rules.literal _ (plainAfter.isLiteral [])]
  rfl

end

/-- The names of all components and props are plain text. -/
def HasPlainNames (descriptor : Descriptor) : Prop :=
  ∀ component ∈ descriptor :: descriptor.descendants,
    (Text.ofString component.name).IsPlain ∧
      ∀ name ∈ component.props, (Text.ofString name).IsPlain

/-- Plain names are shown as they are. -/
theorem HasPlainNames.namesAreShown
    (rules : printer.Rules page)
    (plain : descriptor.HasPlainNames) :
    descriptor.NamesAreShown printer page := by
  have own (component : Descriptor)
      (isComponent : component ∈ descriptor :: descriptor.descendants) :
      ∀ part ∈ component.ownParts, part.entry? = none → part.IsShown printer page := by
    intro part isPart noEntry
    obtain isProp | isState := List.mem_append.1 isPart
    · cases named : component.props with
      | nil =>
          rw [named] at isProp
          cases isProp
      | cons name rest =>
          rw [named] at isProp
          obtain rfl := List.mem_singleton.1 isProp
          exact isShown_props rules (named ▸ (plain component isComponent).2)
    · obtain ⟨entry, -, rfl⟩ := List.mem_map.1 isState
      cases noEntry
  intro part isPart noEntry
  rw [parts, List.mem_cons, List.mem_append, List.mem_flatMap] at isPart
  obtain rfl | isOwn | ⟨component, isComponent, isPart⟩ := isPart
  · exact isShown_title rules (plain descriptor List.mem_cons_self).1
  · exact own descriptor List.mem_cons_self part isOwn noEntry
  · obtain rfl | isOwn := List.mem_cons.1 isPart
    · exact isShown_child rules (plain component (List.mem_cons_of_mem _ isComponent)).1
    · exact own component (List.mem_cons_of_mem _ isComponent) part isOwn noEntry

/-! ## Printed trees -/

section

variable (rules : printer.Rules page) (named : descriptor.NamesAreShown printer page)

include rules named

/-- If all entries are plain, then each part is shown as its text. -/
theorem shows_of_isPlain
    (plain : ∀ entry ∈ descriptor.stateEntries, entry.IsPlain printer page) :
    page.Shows (descriptor.tree printer).labels (descriptor.parts.map Part.text) := by
  rw [Page.Shows, labels_tree, List.forall₂_map_left_iff, List.forall₂_map_right_iff,
    List.forall₂_same]
  intro part isPart
  obtain isShown | ⟨entry, isEntry, rfl⟩ := isShown_or_eq_state named isPart
  · exact isShown
  · exact StateEntry.shown_label_of_isPlain rules (plain entry isEntry)

/-- A part that cannot be shown is an entry with a tag in its name. -/
theorem exists_hasTag_of_fault
    {part : Part}
    {fault : TagFault}
    (isPart : part ∈ descriptor.parts)
    (failed : page.shown (part.label printer) = .error fault) :
    ∃ entry ∈ descriptor.stateEntries, part = .state entry ∧ entry.HasTag printer := by
  obtain isShown | ⟨entry, isEntry, rfl⟩ := isShown_or_eq_state named isPart
  · rw [Part.IsShown, failed] at isShown
    cases isShown
  · refine ⟨entry, isEntry, rfl, ?_⟩
    by_contra noTag
    obtain ⟨shown, isShown⟩ := StateEntry.exists_shown_label rules noTag
    rw [Part.label, isShown] at failed
    cases failed

/-- A tag breaks the print off only if one starts in a name. -/
theorem exists_hasTag_of_tree_eq_error
    {fault : TagFault}
    (broken : printer.tree (descriptor.tree printer) = .error (.tag fault)) :
    ∃ entry ∈ descriptor.stateEntries, entry.HasTag printer := by
  obtain ⟨label, isLabel, cause, failed⟩ := rules.blamed _ _ broken
  rw [labels_tree] at isLabel
  obtain ⟨part, isPart, rfl⟩ := List.mem_map.1 isLabel
  obtain ⟨entry, isEntry, -, hasTag⟩ := exists_hasTag_of_fault rules named isPart failed
  exact ⟨entry, isEntry, hasTag⟩

/-- If the first entry with a tag opens with a closing one, then this breaks the print off. -/
theorem tree_eq_error_of_opensWithClosing
    {before after : List StateEntry}
    {entry : StateEntry}
    (hasRoom : page.HasRoom (descriptor.tree printer))
    (inOrder : descriptor.stateEntries = before ++ entry :: after)
    (noneBefore : ∀ other ∈ before, ¬ other.HasTag printer)
    (opens : entry.OpensWithClosing printer) :
    printer.tree (descriptor.tree printer) = .error (.tag .nothingToClose) := by
  rw [← filterMap_entry?_parts] at inOrder
  obtain ⟨partsBefore, partsFrom, isParts, isBefore, isFrom⟩ :=
    List.filterMap_eq_append_iff.1 inOrder
  obtain ⟨between, part, partsAfter, rfl, noneBetween, isEntry, -⟩ :=
    List.filterMap_eq_cons_iff.1 isFrom
  have shownBefore : ∀ other ∈ partsBefore ++ between,
      ∃ text, page.shown (other.label printer) = .ok text := by
    intro other isIn
    cases shown : page.shown (other.label printer) with
    | ok text => exact ⟨text, rfl⟩
    | error fault =>
        have isPart : other ∈ descriptor.parts := by
          rw [isParts, ← List.append_assoc]
          exact List.mem_append_left _ isIn
        obtain ⟨tagged, -, rfl, hasTag⟩ := exists_hasTag_of_fault rules named isPart shown
        obtain inBefore | inBetween := List.mem_append.1 isIn
        · have isOther : tagged ∈ before := by
            rw [← isBefore]
            exact List.mem_filterMap.2 ⟨_, inBefore, rfl⟩
          exact absurd hasTag (noneBefore tagged isOther)
        · cases noneBetween _ inBetween
  have isLabels : (descriptor.tree printer).labels =
      (partsBefore ++ between).map (Part.label printer) ++
        part.label printer :: partsAfter.map (Part.label printer) := by
    rw [labels_tree, isParts]
    simp
  refine rules.broken _ _ _ _ hasRoom isLabels (List.forall_mem_map.2 shownBefore) ?_
  cases part with
  | state other =>
      cases isEntry
      exact StateEntry.shown_label_of_opensWithClosing rules opens
  | title name => cases isEntry
  | props names => cases isEntry
  | child name => cases isEntry

end

end Descriptor
namespace Command

/-! ## Printing -/

/-- A step prints lines after what was printed before and does nothing else. -/
def Prints (step : Working Unit) (work : Work) (lines : List Text) : Prop :=
  (∀ line ∈ lines, lineEnd ∉ line) ∧
    step work = (.ok (), { work with output := work.output ++ joined lines })

/-- A step is broken off by tagged text that cannot be shown. -/
def MeetsTagFault (step : Working Unit) (work : Work) : Prop :=
  ∃ fault, step work = (.error (.tag fault), work)

variable {printer : Printer} {page : Page} {descriptor : Descriptor} {folder : Folder}
  {work : Work}

theorem give_tree_of_error
    {fault : TagFault}
    (writable : descriptor.isWritable = true)
    (failed : printer.tree (descriptor.tree printer) = .error (.tag fault)) :
    give printer folder descriptor .tree work = (.error (.tag fault), work) := by
  rw [give, if_pos writable, failed]
  rfl

/-- What meets a tag is the printer. -/
theorem tree_eq_error_of_meetsTagFault
    (broken : MeetsTagFault (give printer folder descriptor .tree) work) :
    ∃ fault, printer.tree (descriptor.tree printer) = .error (.tag fault) := by
  obtain ⟨fault, given⟩ := broken
  rw [give] at given
  split at given
  · cases printed : printer.tree (descriptor.tree printer) with
    | ok text =>
        rw [printed] at given
        cases given
    | error cause =>
        cases cause with
        | tag other => exact ⟨other, rfl⟩
        | unencodable text =>
            rw [printed] at given
            cases given
  · cases given

/-- An outline whose labels are shown and fit the page is printed with a line for each. -/
theorem prints_linesShowing
    {texts : List Text}
    (rules : printer.Rules page)
    (writable : descriptor.isWritable = true)
    (shown : page.Shows (descriptor.tree printer).labels texts)
    (fits : page.Fits (descriptor.tree printer) texts) :
    Prints (give printer folder descriptor .tree) work
      ((descriptor.tree printer).linesShowing page.guides texts) := by
  refine ⟨fun line isLine => (fits.takes line isLine).noBreak.1, ?_⟩
  rw [give, if_pos writable, rules.printed _ _ shown fits]
  rfl

/-- Behind its guides, what is shown of the label of an entry with a tag does not show the name
and the value as they are. -/
theorem not_isShownIn_of_mem_zip
    {texts : List Text}
    {entry : StateEntry}
    {row : Tree.Row}
    {text : Text}
    (rules : printer.Rules page)
    (shown : page.Shows (descriptor.tree printer).labels texts)
    (hasTag : entry.HasTag printer)
    (isIn : (row, text) ∈ ((descriptor.tree printer).rows page.guides [] []).zip texts)
    (isLabel : row.label = entry.label printer) :
    ¬ entry.IsShownIn (row.first ++ text) := by
  have noneInGuide : opening ∉ row.first :=
    Tree.opening_notMem_rows page.guides [] [] List.not_mem_nil List.not_mem_nil _ row
      (List.of_mem_zip isIn).1
  rw [Page.Shows, ← Tree.map_label_rows page.guides [] [],
    List.forall₂_map_left_iff] at shown
  have isShown := (List.forall₂_iff_zip.1 shown).2 isIn
  rw [isLabel] at isShown
  exact StateEntry.not_isShownIn_of_hasTag rules noneInGuide hasTag isShown

/-! ## Printed outlines -/

/-- With a printer that follows the rules, and with the other names shown as they are, an outline
whose values can be written is printed as follows.

* If all entries of states are plain and the page has room for them, then each of them has a
  line with its name and its value as they are.
* A tag breaks the print off only if one starts in the name of an entry.
* It does break it off if the first entry with a tag opens with a closing one.
* If all labels can be shown, then no entry with a tag in its name is shown as it is. -/
theorem give_tree_shows_state
    (rules : printer.Rules page)
    (named : descriptor.NamesAreShown printer page)
    (writable : descriptor.isWritable = true)
    (folder : Folder)
    (work : Work) :
    ((∀ entry ∈ descriptor.stateEntries, entry.IsPlain printer page) →
        page.Fits (descriptor.tree printer) (descriptor.parts.map Descriptor.Part.text) →
        Prints (give printer folder descriptor .tree) work (descriptor.plainLines printer page) ∧
          ∀ entry ∈ descriptor.stateEntries,
            ∃ line ∈ descriptor.plainLines printer page, entry.IsShownIn line) ∧
      (MeetsTagFault (give printer folder descriptor .tree) work →
        ∃ entry ∈ descriptor.stateEntries, entry.HasTag printer) ∧
      (∀ before entry after, page.HasRoom (descriptor.tree printer) →
        descriptor.stateEntries = before ++ entry :: after →
        (∀ other ∈ before, ¬ other.HasTag printer) →
        entry.OpensWithClosing printer →
        give printer folder descriptor .tree work = (.error (.tag .nothingToClose), work)) ∧
      ∀ texts, page.Shows (descriptor.tree printer).labels texts →
        page.Fits (descriptor.tree printer) texts →
        Prints (give printer folder descriptor .tree) work
            ((descriptor.tree printer).linesShowing page.guides texts) ∧
          ∀ entry ∈ descriptor.stateEntries, entry.HasTag printer →
            ∀ row text,
              (row, text) ∈ ((descriptor.tree printer).rows page.guides [] []).zip texts →
              row.label = entry.label printer → ¬ entry.IsShownIn (row.first ++ text) := by
  refine ⟨fun plain fits => ⟨?_, fun entry isEntry => ?_⟩, fun broken => ?_,
    fun before entry after hasRoom inOrder noneBefore opens => ?_, fun texts shown fits => ⟨?_, ?_⟩⟩
  · exact prints_linesShowing rules writable (Descriptor.shows_of_isPlain rules named plain) fits
  · have isText : entry.line ∈ descriptor.parts.map Descriptor.Part.text :=
      List.mem_map_of_mem (Descriptor.state_mem_parts isEntry)
    have sameLength : (descriptor.tree printer).labels.length =
        (descriptor.parts.map Descriptor.Part.text).length := by
      rw [Descriptor.labels_tree, List.length_map, List.length_map]
    obtain ⟨row, -, isLine⟩ :=
      Tree.exists_mem_linesShowing page.guides sameLength isText
    exact ⟨_, isLine, entry.isShownIn_append_line row.first⟩
  · obtain ⟨fault, failed⟩ := tree_eq_error_of_meetsTagFault broken
    exact Descriptor.exists_hasTag_of_tree_eq_error rules named failed
  · exact give_tree_of_error writable
      (Descriptor.tree_eq_error_of_opensWithClosing rules named hasRoom inOrder noneBefore opens)
  · exact prints_linesShowing rules writable shown fits
  · exact fun entry _ hasTag row text isIn isLabel =>
      not_isShownIn_of_mem_zip rules shown hasTag isIn isLabel

/-- An entry whose name and value are plain. -/
def openEntry : StateEntry :=
  ⟨Text.ofString "open", .bool true⟩

/-- A panel with one prop, a state of one entry and a row inside. -/
def panel : Descriptor :=
  .mk "Panel" [openEntry] ["title"] [.mk "Row" [] [] []]

/-- The tree of an object with a closing tag as its only key. -/
def closingKey : Node :=
  .inLine 0 true "object" none "\x7b'[/nope]': 1\x7d" [
    .inLine 0 false "\x7b" none "\x7b" [],
    .inLine 1 true "pair" none "'[/nope]': 1" [
      .inLine 1 true "string" (some "key") "'[/nope]'" [
        .inLine 1 false "'" none "'" [],
        .inLine 2 true "string_fragment" none "[/nope]" [],
        .inLine 9 false "'" none "'" []],
      .inLine 10 false ":" none ":" [],
      .inLine 12 true "number" (some "value") "1" []],
    .inLine 13 false "\x7d" none "\x7d" []]

/-- The entry of that object. -/
def closingEntry : StateEntry :=
  ⟨Text.ofString "[/nope]", .number (.whole 1)⟩

/-- The key can be written in a source: it is a string like any other. -/
theorem componentState_closingKey : Literal.componentState closingKey = .ok [closingEntry] := rfl

/-- Its name is nothing but a closing tag, whatever printer it goes to. -/
theorem opensWithClosing_closingEntry (printer : Printer) :
    closingEntry.OpensWithClosing printer := by
  have isTag : IsTag (Text.ofString "/nope") :=
    ⟨ofChar '/', Text.ofString "nope", rfl, by decide, by decide, by decide⟩
  exact ⟨[], Text.ofString "nope", closingEntry.afterName printer, rfl,
    not_startsTag_of_notMem List.not_mem_nil, rfl, isTag, by decide⟩

/-- An entry with an opening tag for the start of its name. -/
def redEntry : StateEntry :=
  ⟨Text.ofString "[red]x", .number (.whole 1)⟩

/-- The console does not show the tag. -/
theorem shown_redEntry :
    Console.shown (redEntry.label (Console.printer isEncodable)) =
      .ok (Text.ofString "state x = 1") := by
  have rules : (Console.printer isEncodable).Rules (Console.page isEncodable 80) :=
    printer_rules rfl 80
  have plainValue : redEntry.valueText.IsPlain := by decide
  have plainBlank : Text.IsPlain ([] ++ [blank]) := by decide
  have plainRest : (Text.ofString "x = 1").IsPlain := by decide
  have isStyle : Tagged.IsStyle (Text.ofString "red") := by
    have cut : (Text.ofString "red").words = [Text.ofString "red"] := rfl
    exact Tagged.isStyle_of_isLettered { Style.plain with color := some (Text.ofString "red") }
      rfl rfl (by decide) cut rfl rfl
  have isTail : redEntry.labelTail (Console.printer isEncodable) =
      [] ++ blank :: (written (Text.ofString "red") ++ Text.ofString "x = 1") := by
    have isValue : (Console.printer isEncodable).escape redEntry.valueText = redEntry.valueText :=
      escape_of_isPlain plainValue
    rw [StateEntry.labelTail, StateEntry.afterName, isValue]
    rfl
  have isShown := @StateEntry.shown_label _ _ redEntry rules
  rw [isTail, rules.front _ _ (plainBlank.isLiteral _)] at isShown
  refine isShown.trans ?_
  have inner : (Console.page isEncodable 80).shown
      (written (Text.ofString "red") ++ Text.ofString "x = 1") = .ok (Text.ofString "x = 1") :=
    shown_written_append isStyle (plainRest.isLiteral [])
  rw [inner]
  rfl

/-- What is shown of the labels of a panel, by what is shown of its state. -/
def panelTexts (state : Text) : List Text :=
  [Text.ofString "Panel", Text.ofString "props: title", state, Text.ofString "<Row>"]

/-- The lines of a panel, by what is shown of its state. -/
def panelLines (state : Text) : List Text :=
  [Text.ofString "Panel", Text.ofString "├── props: title", Text.ofString "├── " ++ state,
    Text.ofString "└── <Row>"]

section

variable (entry : StateEntry) (state : Text)

/-- The names of a panel are plain, whatever its state is. -/
theorem hasPlainNames_panel : (panel.withState [entry]).HasPlainNames := by
  have plainPanel : (Text.ofString "Panel").IsPlain ∧
      ∀ name ∈ ["title"], (Text.ofString name).IsPlain := by decide
  have plainRow : (Text.ofString "Row").IsPlain ∧
      ∀ name ∈ ([] : List String), (Text.ofString name).IsPlain := by decide
  exact List.forall_mem_cons.2 ⟨plainPanel, List.forall_mem_singleton.2 plainRow⟩

/-- A page of eighty columns has room for a panel. -/
theorem hasRoom_panel :
    (Console.page isEncodable 80).HasRoom ((panel.withState [entry]).tree printer) := by
  have narrow : ∀ guide ∈ [[], Tree.fork, Tree.fork, Tree.corner], 2 * guide.length < 80 := by
    decide
  exact hasRoom_of_length_lt rfl narrow

variable {entry state}

/-- A panel whose state is shown as a short text on one line fits such a page. -/
theorem fits_panel
    (short : 2 * (Text.ofString "├── " ++ state).length ≤ 80)
    (encoded : (Text.ofString "├── " ++ state).all isEncodable = true)
    (noBreak : lineEnd ∉ Text.ofString "├── " ++ state ∧ tab ∉ Text.ofString "├── " ++ state) :
    (Console.page isEncodable 80).Fits ((panel.withState [entry]).tree printer)
      (panelTexts state) where
  room := hasRoom_panel entry
  takes := by
    have isLines : ((panel.withState [entry]).tree printer).linesShowing
        (Console.page isEncodable 80).guides (panelTexts state) = panelLines state := rfl
    rw [isLines]
    exact List.forall_mem_cons.2 ⟨takes_of_length_le (by decide) (by decide) (by decide),
      List.forall_mem_cons.2 ⟨takes_of_length_le (by decide) (by decide) (by decide),
      List.forall_mem_cons.2 ⟨takes_of_length_le short encoded noBreak,
      List.forall_mem_singleton.2 (takes_of_length_le (by decide) (by decide) (by decide))⟩⟩⟩

end

/-- The other labels of that panel are shown as they are. -/
theorem shows_redEntry :
    (Console.page isEncodable 80).Shows
      ((panel.withState [redEntry]).tree (Console.printer isEncodable)).labels
      (panelTexts (Text.ofString "state x = 1")) := by
  have rules : (Console.printer isEncodable).Rules (Console.page isEncodable 80) :=
    printer_rules rfl 80
  have plainName : (Text.ofString "Panel").IsPlain := by decide
  have plainProps : ∀ name ∈ ["title"], (Text.ofString name).IsPlain := by decide
  have plainChild : (Text.ofString "Row").IsPlain := by decide
  exact .cons (Descriptor.isShown_title rules plainName) <|
    .cons (Descriptor.isShown_props rules plainProps) <| .cons shown_redEntry <|
    .cons (Descriptor.isShown_child rules plainChild) .nil

/-- On a page of eighty columns, a panel is printed on its four lines, with its state as it is.
A closing tag for a key breaks the print off; an opening one in a key is lost. -/
theorem give_tree_shows_state_panel :
    Prints (give (Console.printer isEncodable) (Folder.ofFiles []) panel .tree) Work.start
        (panelLines (Text.ofString "state open = True")) ∧
      give (Console.printer isEncodable) (Folder.ofFiles []) (panel.withState [closingEntry]) .tree
          Work.start =
        (.error (.tag .nothingToClose), Work.start) ∧
      Prints (give (Console.printer isEncodable) (Folder.ofFiles []) (panel.withState [redEntry])
        .tree) Work.start (panelLines (Text.ofString "state x = 1")) := by
  have rules : (Console.printer isEncodable).Rules (Console.page isEncodable 80) :=
    printer_rules rfl 80
  have named (entry : StateEntry) : (panel.withState [entry]).NamesAreShown
      (Console.printer isEncodable) (Console.page isEncodable 80) :=
    (hasPlainNames_panel entry).namesAreShown rules
  have isPlain : ∀ entry ∈ panel.stateEntries,
      entry.IsPlain (Console.printer isEncodable) (Console.page isEncodable 80) :=
    List.forall_mem_singleton.2
      (StateEntry.isPlain_of_text (by decide) (shown_escape_of_isPlain (by decide)))
  refine ⟨?_, ?_, ?_⟩
  · obtain ⟨printed, -, -, -⟩ := give_tree_shows_state rules (named openEntry) rfl
      (Folder.ofFiles []) Work.start
    exact (printed isPlain (fits_panel (by decide) (by decide) (by decide))).1
  · obtain ⟨-, -, broken, -⟩ := give_tree_shows_state rules (named closingEntry) rfl
      (Folder.ofFiles []) Work.start
    exact broken [] closingEntry [] (hasRoom_panel _) rfl
      (fun _ isIn => absurd isIn List.not_mem_nil) (opensWithClosing_closingEntry _)
  · obtain ⟨-, -, -, lost⟩ := give_tree_shows_state rules (named redEntry) rfl
      (Folder.ofFiles []) Work.start
    exact (lost _ shows_redEntry (fits_panel (by decide) (by decide) (by decide))).1

/-- Not every state is shown with its names and values as they are, even if it fits the page and
escaping makes all of its values literal: a key can be a closing tag, which breaks the print
off. -/
theorem not_forall_give_tree_shows_state :
    ¬ ∀ (printer : Printer) (page : Page), printer.Rules page →
      ∀ (node : Node) (name : String) (state : List StateEntry) (folder : Folder) (work : Work),
        Literal.componentState node = .ok state →
        (Descriptor.mk name state [] []).NamesAreShown printer page →
        (Descriptor.mk name state [] []).isWritable = true →
        page.Fits ((Descriptor.mk name state [] []).tree printer)
          ((Descriptor.mk name state [] []).parts.map Descriptor.Part.text) →
        (∀ entry ∈ state,
          page.shown (printer.escape entry.valueText) = .ok entry.valueText) →
          ¬ MeetsTagFault (give printer folder (.mk name state [] []) .tree) work ∧
            ∃ lines, Prints (give printer folder (.mk name state [] []) .tree) work lines ∧
              ∀ entry ∈ state, ∃ line ∈ lines, entry.IsShownIn line := by
  intro always
  have rules : (Console.printer isEncodable).Rules (Console.page isEncodable 80) :=
    printer_rules rfl 80
  have plainName : (Text.ofString "K").IsPlain := by decide
  have plainNames : (Descriptor.mk "K" [closingEntry] [] []).HasPlainNames :=
    List.forall_mem_singleton.2 ⟨plainName, fun _ isIn => absurd isIn List.not_mem_nil⟩
  have named := plainNames.namesAreShown rules
  have room : (Console.page isEncodable 80).HasRoom
      ((Descriptor.mk "K" [closingEntry] [] []).tree (Console.printer isEncodable)) := by
    have narrow : ∀ guide ∈ [[], Tree.corner], 2 * guide.length < 80 := by decide
    exact hasRoom_of_length_lt rfl narrow
  have takes : ∀ line ∈ [Text.ofString "K", Text.ofString "└── state [/nope] = 1"],
      (Console.page isEncodable 80).Takes line :=
    List.forall_mem_cons.2 ⟨takes_of_length_le (by decide) (by decide) (by decide),
      List.forall_mem_singleton.2 (takes_of_length_le (by decide) (by decide) (by decide))⟩
  obtain ⟨neverBroken, -⟩ := always _ _ rules closingKey "K" [closingEntry] (Folder.ofFiles [])
    Work.start componentState_closingKey named rfl ⟨room, takes⟩
    (List.forall_mem_singleton.2 (shown_escape_of_isPlain (by decide)))
  have inOrder : (Descriptor.mk "K" [closingEntry] [] []).stateEntries =
      [] ++ closingEntry :: [] := rfl
  have broken := Descriptor.tree_eq_error_of_opensWithClosing rules named room inOrder
    (fun _ isIn => absurd isIn List.not_mem_nil) (opensWithClosing_closingEntry _)
  exact neverBroken ⟨_, give_tree_of_error rfl broken⟩

end Command
end ComponentOutline
