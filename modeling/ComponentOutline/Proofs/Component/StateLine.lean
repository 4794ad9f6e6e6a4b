import ComponentOutline.Component.TreeView
import ComponentOutline.Effect
import ComponentOutline.Proofs.Console.Rules
import ComponentOutline.Proofs.Value.Shown

/-!
# Labels of state entries

The label of a state entry shows the word `state`, the name and the value.  The value is
escaped, the name is not: a tag that starts in the name is interpreted, even if it ends in the
value.

With any printer that follows the rules, the label shows the name and the value as they are if
the name is literal.  It can be shown at all if no tag starts in the name, and it cannot if the
first tag there is a closing one.  A tag in the name that can be shown is lost.
-/

namespace ComponentOutline

open CodePoint Console

theorem Text.ofString_append (first second : String) :
    ofString (first ++ second) = ofString first ++ ofString second := by
  rw [ofString, String.toList_append, List.map_append, ofString, ofString]

namespace StateEntry

/-- The value as it is written. -/
def valueText (entry : StateEntry) : Text :=
  Text.ofString entry.value.shown

/-- The line that shows the name and the value as they are. -/
def line (entry : StateEntry) : Text :=
  Text.ofString "state " ++ entry.name ++ Text.ofString " = " ++ entry.valueText

/-- A line shows the name and, further on, the value as they are. -/
def IsShownIn (entry : StateEntry) (line : Text) : Prop :=
  ∃ before between after, line = before ++ entry.name ++ between ++ entry.valueText ++ after

section

variable (printer : Printer) (entry : StateEntry)

/-- What stands in the label after the name. -/
def afterName : Text :=
  Text.ofString " = " ++ printer.escape entry.valueText

/-- What stands in the label behind the word `state`. -/
def labelTail : Text :=
  blank :: (entry.name ++ entry.afterName printer)

/-- A tag starts in the name, and nothing escapes it. -/
def HasTag : Prop :=
  StartsTag 0 entry.name (entry.afterName printer)

/-- The first tag in the name or after it is a closing one. -/
def OpensWithClosing : Prop :=
  ∃ before content after,
    entry.name ++ entry.afterName printer =
      before ++ (written (ofChar '/' :: content) ++ after) ∧
    ¬ Console.HasTag before ∧ slashesAfter 0 before % 2 = 0 ∧
    IsTag (ofChar '/' :: content) ∧ ofChar '(' ∉ content

/-- Nothing in the name means anything, and escaping makes the value literal. -/
structure IsPlain (page : Page) : Prop where
  name : IsLiteral entry.name (entry.afterName printer)
  value : page.shown (printer.escape entry.valueText) = .ok entry.valueText

end

/-! ## The label -/

section

variable (printer : Printer) (entry : StateEntry)

/-- A blank ends the name. -/
theorem afterName_eq :
    entry.afterName printer =
      blank :: (Text.ofString "= " ++ printer.escape entry.valueText) := by
  have start : Text.ofString " = " = blank :: Text.ofString "= " := by decide
  rw [afterName, start, List.cons_append]

/-- The label starts with a word between the tags of a style. -/
theorem label_eq :
    entry.label printer =
      styled [Text.ofString "magenta"] (Text.ofString "state") ++ entry.labelTail printer := by
  have start : Text.ofString "[magenta]state[/magenta] " =
      styled [Text.ofString "magenta"] (Text.ofString "state") ++ [blank] := by decide
  rw [label, start, labelTail, afterName, valueText]
  simp

/-- The label ends with the value, from which a blank divides the name. -/
theorem labelTail_eq :
    entry.labelTail printer =
      (blank :: (entry.name ++ Text.ofString " =")) ++
        blank :: printer.escape entry.valueText := by
  have middle : Text.ofString " = " = Text.ofString " =" ++ [blank] := by decide
  rw [labelTail, afterName, middle]
  simp

theorem line_eq :
    entry.line = Text.ofString "state" ++ ((blank :: (entry.name ++ Text.ofString " =")) ++
      blank :: entry.valueText) := by
  have start : Text.ofString "state " = Text.ofString "state" ++ [blank] := by decide
  have middle : Text.ofString " = " = Text.ofString " =" ++ [blank] := by decide
  rw [line, start, middle]
  simp

/-- The line shows the name and the value, whatever guides stand in front of it. -/
theorem isShownIn_append_line (guide : Text) : entry.IsShownIn (guide ++ entry.line) :=
  ⟨guide ++ Text.ofString "state ", Text.ofString " = ", [], by simp [line]⟩

/-- A value never ends in a backslash, so that no tag after it could be escaped by it. -/
theorem getLast?_valueText_ne : entry.valueText.getLast? ≠ some backslash := by
  rw [valueText, Text.ofString, List.getLast?_map, ne_eq, Option.map_eq_some_iff]
  rintro ⟨character, isLast, isSlash⟩
  have same : character = '\\' := by
    have read := congrArg toChar? isSlash
    rw [backslash, toChar?_ofChar, toChar?_ofChar] at read
    exact Option.some.inj read
  exact entry.value.getLast?_shown (same ▸ isLast)

end

/-! ## What the rules say of the label -/

variable {printer : Printer} {page : Page} {entry : StateEntry} {shown : Text}

/-- Only the rest of the label counts. -/
theorem shown_label (rules : printer.Rules page) :
    page.shown (entry.label printer) =
      (page.shown (entry.labelTail printer)).map fun shown => Text.ofString "state" ++ shown := by
  have plain : (Text.ofString "state").IsPlain := by decide
  rw [label_eq]
  exact rules.styled _ _ _ (by decide) (by decide) (by decide) (plain.isLiteral [])
    plain.opening_notMem plain.backslash_notMem

/-- No tag starts in the rest of the label but in the name. -/
theorem hasTag_labelTail_iff (rules : printer.Rules page) :
    Console.HasTag (entry.labelTail printer) ↔ entry.HasTag printer := by
  have noneInValue : ¬ Console.HasTag (printer.escape entry.valueText) :=
    rules.escaped _ entry.getLast?_valueText_ne
  have noneBetween : opening ∉ blank :: Text.ofString "= " := by decide
  have ends : slashesAfter (slashesAfter 0 entry.name) (blank :: Text.ofString "= ") = 0 := rfl
  rw [labelTail, Console.HasTag, startsTag_cons, if_neg (by decide), startsTag_append,
    List.append_nil (entry.afterName printer), HasTag, afterName_eq, ← List.cons_append,
    startsTag_append_of_notMem noneBetween, ends, ← Console.HasTag]
  exact ⟨fun starts => starts.elim (fun first => absurd first.1 (by decide))
      fun inside => inside.resolve_right noneInValue,
    fun inName => .inr (.inl inName)⟩

/-- If no tag starts in the name, then the label can be shown. -/
theorem exists_shown_label (rules : printer.Rules page) (noTag : ¬ entry.HasTag printer) :
    ∃ shown, page.shown (entry.label printer) = .ok shown := by
  obtain ⟨shown, isShown⟩ := rules.untagged _ (mt (hasTag_labelTail_iff rules).1 noTag)
  exact ⟨_, by rw [shown_label rules, isShown]; rfl⟩

/-- If the first tag in the name is a closing one, then the label cannot be shown. -/
theorem shown_label_of_opensWithClosing
    (rules : printer.Rules page)
    (opens : entry.OpensWithClosing printer) :
    page.shown (entry.label printer) = .error .nothingToClose := by
  obtain ⟨before, content, after, same, noTag, even, isTag, noBracket⟩ := opens
  have noneBefore : ¬ Console.HasTag (blank :: before) := by
    rw [Console.HasTag, startsTag_cons, if_neg (by decide), not_or]
    exact ⟨fun starts => absurd starts.1 (by decide), noTag⟩
  have failed := rules.unmatched (blank :: before) content after noneBefore even isTag noBracket
  rw [shown_label rules, labelTail, same, ← List.cons_append, failed]
  rfl

/-- If nothing in the name means anything, then the label shows the name and the value. -/
theorem shown_label_of_isPlain (rules : printer.Rules page) (plain : entry.IsPlain printer page) :
    page.shown (entry.label printer) = .ok entry.line := by
  have literal : IsLiteral (blank :: (entry.name ++ blank :: Text.ofString "= "))
      (printer.escape entry.valueText) := by
    have isName := plain.name
    rw [afterName_eq] at isName
    exact isName.between (by decide)
  have parts : blank :: (entry.name ++ blank :: Text.ofString "= ") =
      (blank :: (entry.name ++ Text.ofString " =")) ++ [blank] := by
    have equals : Text.ofString " =" ++ [blank] = blank :: Text.ofString "= " := by decide
    rw [List.cons_append, List.append_assoc, equals]
  rw [parts] at literal
  rw [shown_label rules, labelTail_eq, rules.front _ _ literal, plain.value, line_eq]
  rfl

/-- Escaping opens no bracket and closes none. -/
theorem count_escape (rules : printer.Rules page) :
    (printer.escape entry.valueText).count opening = entry.valueText.count opening := by
  have same := congrArg (List.count opening)
    (rules.slashes entry.valueText entry.getLast?_valueText_ne)
  rwa [List.count_filter (by decide), List.count_filter (by decide)] at same

/-- What is shown of a tag in the name is not the tag: behind guides, no line shows the name
and the value as they are. -/
theorem not_isShownIn_of_hasTag
    {guide : Text}
    (rules : printer.Rules page)
    (noneInGuide : opening ∉ guide)
    (hasTag : entry.HasTag printer)
    (isShown : page.shown (entry.label printer) = .ok shown) :
    ¬ entry.IsShownIn (guide ++ shown) := by
  rw [shown_label rules] at isShown
  obtain ⟨rest, isRest, rfl⟩ := Effect.ok_of_except_map isShown
  have fewer := rules.interpreted _ _ ((hasTag_labelTail_iff rules).2 hasTag) isRest
  have noneInWords : (Text.ofString " = ").count opening = 0 ∧
      (Text.ofString "state").count opening = 0 := by decide
  rw [labelTail, List.count_cons_of_ne (by decide), afterName, List.count_append,
    List.count_append, count_escape rules, noneInWords.1] at fewer
  rintro ⟨before, between, after, same⟩
  have brackets := congrArg (List.count opening) same
  simp only [List.count_append, List.count_eq_zero.2 noneInGuide, noneInWords.2] at brackets
  omega

/-- A name and a value of plain text mean nothing. -/
theorem isPlain_of_text
    (plainName : entry.name.IsPlain)
    (literal : page.shown (printer.escape entry.valueText) = .ok entry.valueText) :
    entry.IsPlain printer page :=
  ⟨plainName.isLiteral _, literal⟩

end StateEntry
end ComponentOutline
