import ComponentOutline.Proofs.Console.Markup
import Mathlib.Data.List.Forall2

/-!
# What is known of a printer

The library behind a printer is not part of the program.  What is known of it is how it treats
markup and how it lays out a tree: a tag that is not escaped is interpreted, a closing tag that
closes nothing is an error, nothing but a tag is one, and literal text is shown as it is; a tree
has one row for each label, with guides in front.

The page is what stands on the other side of the library: its width, and the encoding of the
stream.  Lines that are too wide are broken, rows without room are left out, and text without
bytes is refused; the rules say nothing about these.
-/

namespace ComponentOutline
namespace Console

open CodePoint

/-! ## Rows of a tree -/

/-- The guides in front of the labels of a tree: to an entry that others follow, to the last
one, past an entry that others follow, and past the last one. -/
structure Guides where
  fork : Text
  corner : Text
  passing : Text
  blank : Text
  noOpening : ∀ guide ∈ [fork, corner, passing, blank], opening ∉ guide

namespace Tree

/-- A label with the guide in front of its first line and the one in front of the others. -/
structure Row where
  first : Text
  other : Text
  label : Text

section

variable (guides : Guides)

mutual

/-- The rows of a tree behind guides. -/
def rows (first other : Text) : Tree → List Row
  | .mk label entries => ⟨first, other, label⟩ :: entriesRows other entries

/-- The rows of entries behind a guide. -/
def entriesRows (guide : Text) : List Tree → List Row
  | [] => []
  | entry :: rest =>
      rows (guide ++ if rest.isEmpty then guides.corner else guides.fork)
          (guide ++ if rest.isEmpty then guides.blank else guides.passing) entry ++
        entriesRows guide rest

end

/-- The lines of a tree whose labels are shown as these texts. -/
def linesShowing (texts : List Text) (tree : Tree) : List Text :=
  List.zipWith (fun row text => row.first ++ text) (tree.rows guides [] []) texts

end

mutual

/-- The labels of a tree, each before those below it. -/
def labels : Tree → List Text
  | .mk label entries => label :: entriesLabels entries

/-- The labels of entries. -/
def entriesLabels : List Tree → List Text
  | [] => []
  | entry :: rest => entry.labels ++ entriesLabels rest

end

section

variable (guides : Guides)

mutual

/-- A tree has a row for each label. -/
theorem map_label_rows (first other : Text) :
    (tree : Tree) → (tree.rows guides first other).map Row.label = tree.labels
  | .mk label entries => by
      rw [rows, labels, List.map_cons, map_label_entriesRows other entries]

theorem map_label_entriesRows (guide : Text) :
    (entries : List Tree) →
      (entriesRows guides guide entries).map Row.label = entriesLabels entries
  | [] => rfl
  | entry :: rest => by
      rw [entriesRows, entriesLabels, List.map_append, map_label_rows _ _ entry,
        map_label_entriesRows guide rest]

end

/-- The labels of entries come in the order of the entries. -/
theorem entriesLabels_append (front back : List Tree) :
    entriesLabels (front ++ back) = entriesLabels front ++ entriesLabels back := by
  induction front with
  | nil => rfl
  | cons entry rest inductionHypothesis =>
      rw [List.cons_append, entriesLabels, entriesLabels, inductionHypothesis, List.append_assoc]

/-- A text that a label is shown as stands on a line, behind guides. -/
theorem exists_mem_linesShowing
    {tree : Tree}
    {text : Text}
    {texts : List Text}
    (sameLength : tree.labels.length = texts.length)
    (isText : text ∈ texts) :
    ∃ row ∈ tree.rows guides [] [], row.first ++ text ∈ tree.linesShowing guides texts := by
  rw [← map_label_rows guides [] [], List.length_map] at sameLength
  obtain ⟨index, less, rfl⟩ := List.mem_iff_getElem.1 isText
  have lessToo : index < (tree.rows guides [] []).length := by omega
  refine ⟨_, List.getElem_mem lessToo, ?_⟩
  rw [linesShowing, List.mem_iff_getElem]
  exact ⟨index, by rw [List.length_zipWith]; omega, List.getElem_zipWith⟩

/-- The guides of the next level open no bracket if those of this one do not. -/
theorem opening_notMem_guide {guide : Text} (isLast : Bool) (noOpening : opening ∉ guide) :
    opening ∉ guide ++ (if isLast then guides.corner else guides.fork) ∧
      opening ∉ guide ++ (if isLast then guides.blank else guides.passing) := by
  obtain ⟨fork, corner, passing, blank, noneInGuides⟩ := guides
  simp only [List.forall_mem_cons] at noneInGuides
  cases isLast with
  | false => simp [noOpening, noneInGuides]
  | true => simp [noOpening, noneInGuides]

mutual

/-- No bracket is opened in a guide. -/
theorem opening_notMem_rows
    (first other : Text)
    (noneInFirst : opening ∉ first)
    (noneInOther : opening ∉ other) :
    (tree : Tree) → ∀ row ∈ tree.rows guides first other, opening ∉ row.first
  | .mk label entries => by
      rw [rows]
      exact List.forall_mem_cons.2
        ⟨noneInFirst, opening_notMem_entriesRows other noneInOther entries⟩

theorem opening_notMem_entriesRows (guide : Text) (noOpening : opening ∉ guide) :
    (entries : List Tree) → ∀ row ∈ entriesRows guides guide entries, opening ∉ row.first
  | [] => fun _ isIn => absurd isIn List.not_mem_nil
  | entry :: rest => by
      have noneInGuides := opening_notMem_guide guides rest.isEmpty noOpening
      rw [entriesRows, List.forall_mem_append]
      exact ⟨opening_notMem_rows _ _ noneInGuides.1 noneInGuides.2 entry,
        opening_notMem_entriesRows guide noOpening rest⟩

end

end

end Tree

/-! ## Pages -/

/-- What a library and its stream make of text. -/
structure Page where
  /-- What is shown of tagged text before it is laid out, or why it cannot be. -/
  shown : Text → Except TagFault Text
  /-- The guides of trees. -/
  guides : Guides
  /-- The number of columns. -/
  width : Nat
  /-- The number of columns that a text takes. -/
  cells : Text → Nat
  /-- Whether the stream has bytes for a code point. -/
  encodes : CodePoint → Bool

namespace Page

variable (page : Page)

/-- Every label has room behind its guides. -/
def HasRoom (tree : Tree) : Prop :=
  ∀ row ∈ tree.rows page.guides [] [], page.cells row.first < page.width

/-- A line fits the page and can be written. -/
structure Takes (line : Text) : Prop where
  cells : page.cells line ≤ page.width
  length : line.length ≤ page.width
  encodes : ∀ point ∈ line, page.encodes point = true
  noBreak : lineEnd ∉ line ∧ tab ∉ line

/-- A tree whose labels are shown as these texts fits the page: there is room, and the page takes
each line. -/
structure Fits (tree : Tree) (texts : List Text) : Prop where
  room : page.HasRoom tree
  takes : ∀ line ∈ tree.linesShowing page.guides texts, page.Takes line

/-- Each label is shown as a text. -/
def Shows (labels texts : List Text) : Prop :=
  List.Forall₂ (fun label text => page.shown label = .ok text) labels texts

end Page

/-- There is room for a tree if all guides in front of its labels are narrow. -/
theorem Page.hasRoom_of_guides
    {page : Page}
    {tree : Tree}
    {guides : List Text}
    (isGuides : (tree.rows page.guides [] []).map Tree.Row.first = guides)
    (narrow : ∀ guide ∈ guides, page.cells guide < page.width) :
    page.HasRoom tree := by
  rw [← isGuides] at narrow
  exact List.forall_mem_map.1 narrow

/-! ## Rules -/

/-- Styles that labels use. -/
def basicStyles : List Text :=
  ["bold", "dim", "cyan", "magenta", "bold green"].map Text.ofString

/-- A word between the tags of styles. -/
def styled (styles : List Text) (word : Text) : Text :=
  styles.foldr (fun style inside => written style ++ (inside ++ written (ofChar '/' :: style))) word

theorem styled_singleton (style word : Text) :
    styled [style] word = written style ++ (word ++ written (ofChar '/' :: style)) := rfl

/-- How a printer treats markup and trees. -/
structure Printer.Rules (printer : Printer) (page : Page) : Prop where
  /-- Literal text is shown as it is. -/
  literal : ∀ text, IsLiteral text [] → page.shown text = .ok text
  /-- So is literal text in front of other text, from which a blank divides it. -/
  front : ∀ front back, IsLiteral (front ++ [blank]) back →
    page.shown (front ++ blank :: back) =
      (page.shown back).map fun shown => front ++ blank :: shown
  /-- Of a word between the tags of basic styles, the word is shown. -/
  styled : ∀ styles word back, styles ≠ [] → (∀ style ∈ styles, style ∈ basicStyles) →
    word ≠ [] → IsLiteral word [] → opening ∉ word → backslash ∉ word →
    page.shown (styled styles word ++ back) = (page.shown back).map fun shown => word ++ shown
  /-- A tag that is not escaped is interpreted: of all brackets, its own is not shown. -/
  interpreted : ∀ text shown, HasTag text → page.shown text = .ok shown →
    shown.count opening < text.count opening
  /-- Nothing but a tag is an error. -/
  untagged : ∀ text, ¬ HasTag text → ∃ shown, page.shown text = .ok shown
  /-- A closing tag before any other tag is an error.  (With round brackets in it, the name may
  be a color that cannot be read, which is another error.) -/
  unmatched : ∀ before name after, ¬ HasTag before → slashesAfter 0 before % 2 = 0 →
    IsTag (ofChar '/' :: name) → ofChar '(' ∉ name →
    page.shown (before ++ (written (ofChar '/' :: name) ++ after)) = .error .nothingToClose
  /-- No tag is left in escaped text. -/
  escaped : ∀ text, text.getLast? ≠ some backslash → ¬ HasTag (printer.escape text)
  /-- Escaping adds nothing but backslashes. -/
  slashes : ∀ text, text.getLast? ≠ some backslash →
    (printer.escape text).filter (· ≠ backslash) = text.filter (· ≠ backslash)
  /-- A tree whose labels fit the page is printed with a line for each. -/
  printed : ∀ tree texts, page.Shows tree.labels texts → page.Fits tree texts →
    printer.tree tree = .ok (joined (tree.linesShowing page.guides texts))
  /-- The first label that cannot be shown breaks the print off. -/
  broken : ∀ tree before label after, page.HasRoom tree →
    tree.labels = before ++ label :: after →
    (∀ other ∈ before, ∃ text, page.shown other = .ok text) →
    page.shown label = .error .nothingToClose →
    printer.tree tree = .error (.tag .nothingToClose)
  /-- A tag breaks the print off only if a label cannot be shown. -/
  blamed : ∀ tree fault, printer.tree tree = .error (.tag fault) →
    ∃ label ∈ tree.labels, ∃ cause, page.shown label = .error cause

end Console
end ComponentOutline
