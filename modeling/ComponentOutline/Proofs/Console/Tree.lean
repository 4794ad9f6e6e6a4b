import ComponentOutline.Console.Tree
import ComponentOutline.Effect
import ComponentOutline.Proofs.Console.Rules

/-!
# Trees in rows

A tree is printed row by row, so that what is printed depends on its labels one by one.  If each
label is shown as a text on one line, then the tree has a line for each; the first label that
cannot be shown breaks the print off, and nothing else does.
-/

namespace ComponentOutline
namespace Console

open CodePoint

/-! ## Text on one line -/

section

variable {text : Text}

theorem widen_of_tab_notMem (noTab : tab ∉ text) : widen text = text := by
  rw [widen, List.splitOn_eq_singleton noTab, widenFrom]

/-- Text without line ends and tabs is laid out as one line. -/
theorem linesOf_of_notMem (noEnd : lineEnd ∉ text) (noTab : tab ∉ text) :
    linesOf text = [text] := by
  rw [linesOf, List.splitOn_eq_singleton noEnd, List.map_singleton, widen_of_tab_notMem noTab]

end

namespace Tree

/-- The guides of the console. -/
def guides : Guides where
  fork := fork
  corner := corner
  passing := passing
  blank := blank
  noOpening := by decide

/-! ## Rows -/

namespace Row

/-- The lines of a row. -/
def lines (row : Row) : Except TagFault (List Text) := do
  let labelLines ← Console.lines row.label
  return guided row.first row.other labelLines

/-- The lines of rows one after the other. -/
def linesOfAll : List Row → Except TagFault (List Text)
  | [] => .ok []
  | row :: rest => do
      let rowLines ← row.lines
      let restLines ← linesOfAll rest
      return rowLines ++ restLines

theorem linesOfAll_append (front back : List Row) :
    linesOfAll (front ++ back) = do
      let frontLines ← linesOfAll front
      let backLines ← linesOfAll back
      return frontLines ++ backLines := by
  induction front with
  | nil =>
      cases shown : linesOfAll back with
      | ok lines => simp [linesOfAll, shown, bind, Except.bind, pure, Except.pure]
      | error fault => simp [linesOfAll, shown, bind, Except.bind]
  | cons row rest inductionHypothesis =>
      rw [List.cons_append, linesOfAll, linesOfAll, inductionHypothesis]
      simp only [bind_assoc, pure_bind, List.append_assoc]

end Row

mutual

/-- A tree is printed row by row. -/
theorem lines_eq (first other : Text) :
    (tree : Tree) → tree.lines first other = Row.linesOfAll (tree.rows guides first other)
  | .mk label entries => by
      rw [Tree.lines, rows, Row.linesOfAll, entriesLines_eq other entries, Row.lines]
      simp only [bind_assoc, pure_bind]

theorem entriesLines_eq (guide : Text) :
    (entries : List Tree) →
      entriesLines guide entries = Row.linesOfAll (entriesRows guides guide entries)
  | [] => rfl
  | entry :: rest => by
      rw [entriesLines, entriesRows, Row.linesOfAll_append, lines_eq _ _ entry,
        entriesLines_eq guide rest]
      rfl

end

namespace Row

variable {row : Row} {rows : List Row} {fault : TagFault} {text : Text} {texts : List Text}

/-- A label that is shown on one line takes one behind its guide. -/
theorem lines_of_shown
    (isShown : Console.shown row.label = .ok text)
    (noBreak : lineEnd ∉ row.first ++ text ∧ tab ∉ row.first ++ text) :
    row.lines = .ok [row.first ++ text] := by
  simp only [List.mem_append, not_or] at noBreak
  have single := linesOf_of_notMem noBreak.1.2 noBreak.2.2
  rw [lines, Console.lines, isShown, Except.map, single]
  rfl

theorem lines_of_error (failed : Console.shown row.label = .error fault) :
    row.lines = .error fault := by
  rw [lines, Console.lines, failed]
  rfl

theorem exists_lines_of_shown (isShown : Console.shown row.label = .ok text) :
    ∃ lines, row.lines = .ok lines := by
  rw [lines, Console.lines, isShown]
  exact ⟨_, rfl⟩

/-- Rows whose labels are shown on one line each are printed on a line each. -/
theorem linesOfAll_of_shown
    (shown : List.Forall₂ (fun row text => Console.shown row.label = .ok text) rows texts)
    (noBreak : ∀ line ∈ List.zipWith (fun row text => row.first ++ text) rows texts,
      lineEnd ∉ line ∧ tab ∉ line) :
    linesOfAll rows = .ok (List.zipWith (fun row text => row.first ++ text) rows texts) := by
  induction shown with
  | nil => rfl
  | cons isShown _ inductionHypothesis =>
      rw [List.zipWith_cons_cons, List.forall_mem_cons] at noBreak
      rw [linesOfAll, lines_of_shown isShown noBreak.1, inductionHypothesis noBreak.2]
      rfl

/-- The first label that cannot be shown breaks the rows off. -/
theorem linesOfAll_of_error
    {before after : List Row}
    (shownBefore : ∀ other ∈ before, ∃ text, Console.shown other.label = .ok text)
    (failed : Console.shown row.label = .error fault) :
    linesOfAll (before ++ row :: after) = .error fault := by
  induction before with
  | nil =>
      rw [List.nil_append, linesOfAll, lines_of_error failed]
      rfl
  | cons other before inductionHypothesis =>
      obtain ⟨⟨text, isShown⟩, others⟩ := List.forall_mem_cons.1 shownBefore
      obtain ⟨otherLines, otherPrinted⟩ := exists_lines_of_shown isShown
      rw [List.cons_append, linesOfAll, otherPrinted, inductionHypothesis others]
      rfl

/-- Rows are broken off only by a label that cannot be shown. -/
theorem exists_error_of_linesOfAll (broken : linesOfAll rows = .error fault) :
    ∃ row ∈ rows, ∃ cause, Console.shown row.label = .error cause := by
  by_contra noError
  have allShown : ∀ row ∈ rows, ∃ text, Console.shown row.label = .ok text := by
    intro row isRow
    cases shown : Console.shown row.label with
    | ok text => exact ⟨text, rfl⟩
    | error cause => exact absurd ⟨row, isRow, cause, shown⟩ noError
  have printed : ∃ lines, linesOfAll rows = .ok lines := by
    clear broken noError
    induction rows with
    | nil => exact ⟨[], rfl⟩
    | cons row rest inductionHypothesis =>
        obtain ⟨⟨text, isShown⟩, others⟩ := List.forall_mem_cons.1 allShown
        obtain ⟨rowLines, rowPrinted⟩ := exists_lines_of_shown isShown
        obtain ⟨restLines, restPrinted⟩ := inductionHypothesis others
        exact ⟨rowLines ++ restLines, by rw [linesOfAll, rowPrinted, restPrinted]; rfl⟩
  obtain ⟨lines, isLines⟩ := printed
  rw [broken] at isLines
  cases isLines

end Row

/-! ## Printed trees -/

variable {tree : Tree} {fault : TagFault} {texts : List Text}

/-- A tree whose labels are shown on one line each is printed with a line for each. -/
theorem lines_of_shown
    (shown : List.Forall₂ (fun label text => Console.shown label = .ok text) tree.labels texts)
    (noBreak : ∀ line ∈ tree.linesShowing guides texts, lineEnd ∉ line ∧ tab ∉ line) :
    tree.lines [] [] = .ok (tree.linesShowing guides texts) := by
  rw [← map_label_rows guides [] [], List.forall₂_map_left_iff] at shown
  rw [lines_eq, linesShowing]
  exact Row.linesOfAll_of_shown shown noBreak

/-- The first label that cannot be shown breaks the tree off. -/
theorem lines_of_error
    {label : Text}
    {before after : List Text}
    (isLabels : tree.labels = before ++ label :: after)
    (shownBefore : ∀ other ∈ before, ∃ text, Console.shown other = .ok text)
    (failed : Console.shown label = .error fault) :
    tree.lines [] [] = .error fault := by
  rw [← map_label_rows guides [] [], List.map_eq_append_iff] at isLabels
  obtain ⟨front, back, isRows, rfl, isBack⟩ := isLabels
  obtain ⟨row, rest, rfl, rfl, rfl⟩ := List.map_eq_cons_iff.1 isBack
  rw [lines_eq, isRows]
  refine Row.linesOfAll_of_error (fun other isIn => ?_) failed
  exact shownBefore other.label (List.mem_map_of_mem isIn)

/-- A tree is broken off only by a label that cannot be shown. -/
theorem exists_error_of_lines (broken : tree.lines [] [] = .error fault) :
    ∃ label ∈ tree.labels, ∃ cause, Console.shown label = .error cause := by
  rw [lines_eq] at broken
  obtain ⟨row, isRow, cause, failed⟩ := Row.exists_error_of_linesOfAll broken
  refine ⟨row.label, ?_, cause, failed⟩
  rw [← map_label_rows guides [] []]
  exact List.mem_map_of_mem isRow

end Tree
end Console
end ComponentOutline
