import ComponentOutline.Proofs.Console.Styled
import ComponentOutline.Proofs.Console.Tree

/-!
# The console follows the rules

The printer of the console follows all that is known of printers, on a page of any width and for
any stream that has bytes for line ends.  The console breaks no lines, so that the rules hold of
more than they ask for: what fits a page is printed as it is.
-/

namespace ComponentOutline

/-! ## Widths -/

theorem CodePoint.cells_le_two (point : CodePoint) : point.cells ≤ 2 := by
  unfold cells
  split_ifs
  all_goals omega

theorem Text.addedCells_le_one (last : Option CodePoint) : addedCells last ≤ 1 := by
  cases last with
  | none => exact Nat.zero_le 1
  | some point =>
      rw [addedCells]
      split
      · exact Nat.le_refl 1
      · exact Nat.zero_le 1

/-- A text takes two cells for each code point at most. -/
theorem Text.cells_le (text : Text) : text.cells ≤ 2 * text.length := by
  have all (hidden : Bool) (last : Option CodePoint) :
      cellsAfter hidden last text ≤ 2 * text.length := by
    induction text generalizing hidden last with
    | nil => exact Nat.le_refl 0
    | cons point rest inductionHypothesis =>
        have width := point.cells_le_two
        have added := addedCells_le_one last
        have shorter (hidden : Bool) (last : Option CodePoint) :
            cellsAfter hidden last rest ≤ 2 * rest.length := inductionHypothesis hidden last
        rw [cellsAfter, List.length_cons]
        split_ifs
        · exact (shorter _ _).trans (by omega)
        · exact (shorter _ _).trans (by omega)
        · have := shorter false none
          omega
        · have := shorter false last
          omega
        · have := shorter false (some point)
          omega
  exact all false none

namespace Console

open CodePoint Tagged

variable {text front back word shownText : Text} {styles : List Text} {fault : TagFault}

/-! ## What is shown of rendered text -/

theorem shown_of_render_error (failed : render text = .error fault) :
    shown text = .error fault := by
  rw [shown, failed]
  rfl

/-- Where nothing has a style, all that is rendered is shown. -/
theorem shown_of_render (rendered : render text = .ok ⟨shownText, []⟩) :
    shown text = .ok shownText := by
  rw [shown, rendered]
  rfl

/-- What is shown is what has been rendered, whatever styles it has. -/
theorem exists_render_of_shown (isShown : shown text = .ok shownText) :
    ∃ spans, render text = .ok ⟨shownText, spans⟩ := by
  obtain ⟨⟨inner, spans⟩, rendered, checked⟩ := Effect.ok_of_except_bind isShown
  obtain ⟨-, -, isText⟩ := Effect.ok_of_except_bind checked
  cases isText
  exact ⟨spans, rendered⟩

theorem checkStyles_cons (span : Span) (spans : List Span) :
    checkStyles (span :: spans) =
      span.style.style.mapError TagFault.unreadableColor >>= fun _ => checkStyles spans := by
  cases read : span.style.style with
  | error fault => simp [checkStyles, read, bind, Except.bind, Except.mapError]
  | ok style => simp [checkStyles, read, bind, Except.bind, Except.mapError, pure, Except.pure]

/-- Spans with styles that can be read do not matter. -/
theorem checkStyles_append_of_isOk
    {before spans : List Span}
    (readable : ∀ span ∈ before, span.style.style.isOk = true) :
    checkStyles (before ++ spans) = checkStyles spans := by
  induction before with
  | nil => rfl
  | cons span before inductionHypothesis =>
      obtain ⟨isReadable, others⟩ := List.forall_mem_cons.1 readable
      rw [List.cons_append, checkStyles_cons, inductionHypothesis others]
      cases read : span.style.style with
      | error fault =>
          rw [read] at isReadable
          cases isReadable
      | ok style => rfl

/-- Whether styles can be read does not depend on where they are. -/
theorem checkStyles_map_shift (count : Nat) (spans : List Span) :
    checkStyles (spans.map (Span.shift count)) = checkStyles spans := by
  induction spans with
  | nil => rfl
  | cons span rest inductionHypothesis =>
      rw [List.map_cons, checkStyles_cons, checkStyles_cons, inductionHypothesis]
      rfl

/-- Behind a word without line ends and tabs, the same spans are looked at. -/
theorem isStyled_shift
    (noEnd : lineEnd ∉ word)
    (noTab : tab ∉ word)
    (text : Text)
    (span : Span) :
    isStyled (word ++ text) (span.shift word.length) = isStyled text span := by
  have same {point : CodePoint} (notIn : point ∉ word) :
      (word ++ text).contains point = text.contains point := by
    simp [List.contains_eq_mem, notIn]
  rw [isStyled, isStyled, same noEnd, same noTab, Span.shift, List.take_length_add_append,
    List.drop_length_add_append]

/-- Behind a word whose styles can be read, a text is shown as if it stood alone. -/
theorem shown_behind
    {before : List Span}
    (rendered : render text = (render back).map fun rendered =>
      ⟨word ++ rendered.text, before ++ rendered.spans.map (Span.shift word.length)⟩)
    (readable : ∀ span ∈ before, span.style.style.isOk = true)
    (literal : IsLiteral word front) :
    shown text = (shown back).map fun shown => word ++ shown := by
  have noEnd : lineEnd ∉ word := fun isIn => absurd (literal.noControl _ isIn) (by decide)
  have noTab : tab ∉ word := fun isIn => absurd (literal.noControl _ isIn) (by decide)
  rw [shown, shown, rendered]
  cases render back with
  | error fault => rfl
  | ok inner =>
      have sameSpans : isStyled (word ++ inner.text) ∘ Span.shift word.length =
          isStyled inner.text := funext (isStyled_shift noEnd noTab inner.text)
      have isReadable (span : Span)
          (isIn : span ∈ before.filter (isStyled (word ++ inner.text))) :
          span.style.style.isOk = true := readable span (List.mem_filter.1 isIn).1
      simp only [Except.map, bind, Except.bind]
      rw [List.filter_append, List.filter_map, sameSpans, checkStyles_append_of_isOk isReadable,
        checkStyles_map_shift]
      cases checkStyles (inner.spans.filter (isStyled inner.text)) with
      | error fault => rfl
      | ok checked => rfl

/-! ## Markup -/

/-- Text without tags that count can always be shown. -/
theorem shown_of_not_hasTag (noTag : ¬ HasTag text) :
    shown text = .ok ((pieces text).flatMap Piece.shown) :=
  shown_of_render (render_of_noTag (tag_notMem_pieces noTag))

theorem shown_of_isLiteral (literal : IsLiteral text []) : shown text = .ok text := by
  rw [shown_of_not_hasTag literal.noTag, pieces_of_isLiteral literal, List.flatMap_singleton,
    Piece.shown, Piece.visible_of_literal literal.noCode literal.noControl]

/-- In plain text there is nothing to escape. -/
theorem escape_of_isPlain (plain : text.IsPlain) : escape text = text := by
  have ends : text.getLast? ≠ some backslash :=
    fun isLast => plain.backslash_notMem (List.mem_of_getLast? isLast)
  rw [escape_eq ends, escapedAfter_of_notMem plain.opening_notMem, Segment.slashRun_zero_append]

/-- Plain text is shown as it is, escaped or not. -/
theorem shown_escape_of_isPlain (plain : text.IsPlain) : shown (escape text) = .ok text := by
  rw [escape_of_isPlain plain, shown_of_isLiteral (plain.isLiteral [])]

/-- A run of literal text moves on what comes behind a blank. -/
theorem applyPieces_addRun_blank
    (literal : IsLiteral (front ++ [blank]) back)
    (pieces : List Piece) :
    Marking.start.applyPieces 0 (Piece.addRun (front ++ [blank]) pieces) =
      Marking.start.applyPieces (front ++ [blank]).length pieces := by
  have isVisible := Piece.visible_of_literal literal.noCode literal.noControl
  cases pieces with
  | nil => simp [Piece.addRun, Marking.applyPieces, Piece.shown, isVisible]
  | cons piece rest =>
      cases piece with
      | run more =>
          have parted := Piece.visible_append_blank front more
          rw [isVisible] at parted
          simp [Piece.addRun, Marking.applyPieces, Piece.shown, parted, ← Nat.add_assoc,
            Nat.add_right_comm _ 1]
      | literal more => simp [Piece.addRun, Marking.applyPieces, Piece.shown, isVisible]
      | tag content => simp [Piece.addRun, Marking.applyPieces, Piece.shown, isVisible]

/-- Literal text in front of a blank is shown as it is. -/
theorem shown_append_of_isLiteral (literal : IsLiteral (front ++ [blank]) back) :
    shown (front ++ blank :: back) = (shown back).map fun shown => front ++ blank :: shown := by
  have ends : slashesAfter 0 (front ++ [blank]) = 0 := slashesAfter_concat (by decide) 0 front
  have cut : pieces (front ++ blank :: back) =
      Piece.addRun (front ++ [blank]) (pieces back) := by
    rw [← pieces_append_of_isLiteral literal ends (by simp), List.append_assoc]
    rfl
  have isVisible := Piece.visible_of_literal literal.noCode literal.noControl
  have rendered := @render_behind (front ++ blank :: back) back (front ++ [blank]) []
    (by rw [cut, applyPieces_addRun_blank literal]; rfl)
    (by rw [cut, Piece.flatMap_shown_addRun_blank, isVisible])
    (fun _ isIn => absurd isIn List.not_mem_nil) (.inl rfl)
  rw [shown_behind rendered (fun _ isIn => absurd isIn List.not_mem_nil) literal]
  simp

/-- Of a word between the tags of basic styles, the word is shown. -/
theorem shown_styled_append
    (nonempty : styles ≠ [])
    (basic : ∀ style ∈ styles, style ∈ basicStyles)
    (isWord : IsWord word)
    (back : Text) :
    shown (styled styles word ++ back) = (shown back).map fun shown => word ++ shown := by
  have isStyle : ∀ style ∈ styles, IsStyle style :=
    fun style isIn => isStyle_of_mem_basicStyles style (basic style isIn)
  have marked := @IsWord.applyPieces_styled back word styles isWord isStyle (.inl nonempty) 0 [] []
  rw [Nat.zero_add, List.append_nil] at marked
  have rendered := render_behind marked (isWord.shown_styled isStyle (.inl nonempty))
    (List.forall_mem_map.2 fun _ _ => rfl) (.inr (List.length_pos_iff.2 isWord.nonempty))
  exact shown_behind rendered
    (List.forall_mem_map.2 fun style isIn => (isStyle style isIn).isReadable) isWord.literal

/-- The tag of a style that is never closed is lost. -/
theorem shown_written_append
    {style : Text}
    (isStyle : IsStyle style)
    (literal : IsLiteral text []) :
    shown (written style ++ text) = .ok text := by
  have cut : pieces (written style ++ text) = [.literal [], .tag style, .run text] := by
    rw [pieces_written_append isStyle.isTag, pieces_of_isLiteral literal]
  have isVisible := Piece.visible_of_literal literal.noCode literal.noControl
  have rendered : render (written style ++ text) = .ok ⟨text, [⟨0, text.length, style⟩]⟩ := by
    rw [render, cut]
    simp [Marking.applyPieces, Marking.start, Marking.spansTo, Piece.shown, Piece.visible_nil,
      isVisible, isStyle.applyTag_opening, OpenTag.spanTo, OpenTag.style, bind, Except.bind, pure,
      Except.pure]
  have isReadable (span : Span)
      (isIn : span ∈ [Span.mk 0 text.length style].filter (isStyled text)) :
      span.style.style.isOk = true := by
    rw [List.mem_singleton.1 (List.mem_filter.1 isIn).1]
    exact isStyle.isReadable
  have checked := @checkStyles_append_of_isOk _ [] isReadable
  rw [List.append_nil] at checked
  rw [shown, rendered]
  simp only [bind, Except.bind, checked]
  rfl

/-- A closing tag before any other tag is an error. -/
theorem shown_of_closing
    {before name after : Text}
    (noTag : ¬ HasTag before)
    (even : slashesAfter 0 before % 2 = 0)
    (isTag : IsTag (ofChar '/' :: name))
    (noBracket : ofChar '(' ∉ name) :
    shown (before ++ (written (ofChar '/' :: name) ++ after)) = .error .nothingToClose := by
  have isFirst := @firstTag?_of_written before _ after 0 isTag noTag even
  have failed := Marking.applyPieces_of_firstTag? isFirst noBracket 0 []
  refine shown_of_render_error ?_
  rw [render, pieces, segments, Marking.start, failed]
  rfl

/-! ## The printer -/

/-- The page of the console for a stream and a number of columns. -/
def page (encodes : CodePoint → Bool) (width : Nat) : Page where
  shown := shown
  guides := Tree.guides
  width := width
  cells := Text.cells
  encodes := encodes

/-- Guides of few code points leave room on the page. -/
theorem hasRoom_of_length_lt
    {encodes : CodePoint → Bool}
    {width : Nat}
    {tree : Tree}
    {guides : List Text}
    (isGuides : (tree.rows Tree.guides [] []).map Tree.Row.first = guides)
    (narrow : ∀ guide ∈ guides, 2 * guide.length < width) :
    (page encodes width).HasRoom tree :=
  Page.hasRoom_of_guides isGuides fun guide isGuide =>
    guide.cells_le.trans_lt (narrow guide isGuide)

/-- A line takes two columns for a code point at most. -/
theorem takes_of_length_le
    {encodes : CodePoint → Bool}
    {width : Nat}
    (short : 2 * text.length ≤ width)
    (encoded : text.all encodes = true)
    (noBreak : lineEnd ∉ text ∧ tab ∉ text) :
    (page encodes width).Takes text where
  cells := text.cells_le.trans short
  length := by
    have isWidth : (page encodes width).width = width := rfl
    omega
  encodes := List.all_eq_true.1 encoded
  noBreak := noBreak

/-- The lines of a tree are put out one after the other, if there are bytes for all of them. -/
theorem tree_printer (encodes : CodePoint → Bool) (tree : Tree) :
    (printer encodes).tree tree =
      ((tree.lines [] []).map joined).mapError .tag >>= encoded encodes := rfl

theorem encoded_joined
    {encodes : CodePoint → Bool}
    {lines : List Text}
    (encodesEnd : encodes lineEnd = true)
    (each : ∀ line ∈ lines, ∀ point ∈ line, encodes point = true) :
    encoded encodes (joined lines) = .ok (joined lines) := by
  refine if_pos (List.all_eq_true.2 fun point isIn => ?_)
  obtain ⟨line, isLine, isIn⟩ := List.mem_flatMap.1 isIn
  obtain inLine | isEnd := List.mem_append.1 isIn
  · exact each line isLine point inLine
  · rw [List.mem_singleton.1 isEnd, encodesEnd]

/-- The console follows the rules for printers. -/
theorem printer_rules
    {encodes : CodePoint → Bool}
    (encodesEnd : encodes lineEnd = true)
    (width : Nat) :
    (printer encodes).Rules (page encodes width) where
  literal _ := shown_of_isLiteral
  front _ _ := shown_append_of_isLiteral
  styled styles word back nonempty basic someWord literal noOpening noSlash :=
    shown_styled_append nonempty basic ⟨literal, someWord, noOpening, noSlash⟩ back
  interpreted text shown hasTag isShown := by
    obtain ⟨spans, rendered⟩ := exists_render_of_shown isShown
    rw [show shown = (pieces text).flatMap Piece.shown from eq_of_render_eq rendered]
    exact count_shown_lt hasTag
  untagged _ noTag := ⟨_, shown_of_not_hasTag noTag⟩
  unmatched _ _ _ := shown_of_closing
  escaped _ := not_hasTag_escape
  slashes _ := filter_escape
  printed tree texts isShown fits := by
    have lines := Tree.lines_of_shown isShown fun line isLine => (fits.takes line isLine).noBreak
    have bytes := encoded_joined encodesEnd fun line isLine => (fits.takes line isLine).encodes
    rw [tree_printer, lines]
    exact bytes
  broken tree before label after _ isLabels shownBefore failed := by
    have broken := Tree.lines_of_error isLabels shownBefore failed
    rw [tree_printer, broken]
    rfl
  blamed tree fault broken := by
    cases printed : tree.lines [] [] with
    | error cause => exact Tree.exists_error_of_lines printed
    | ok lines =>
        -- The stream can still refuse the lines, but then no tag is to blame.
        rw [tree_printer, printed] at broken
        simp only [Except.map, Except.mapError, bind, Except.bind, encoded] at broken
        split at broken
        · cases broken
        · cases broken

end Console
end ComponentOutline
