import ComponentOutline.Proofs.Console.Rendered
import ComponentOutline.Proofs.Console.Rules
import ComponentOutline.Proofs.Console.StyleName

/-!
# Marked text

The tags among the pieces of a text are opened and closed one after the other.  What comes after
a run of text, or after a word between tags of styles, is marked as if it stood alone, only that
all positions are shifted and the spans of the styles come first.  A closing tag that comes
first has nothing to close.
-/

namespace ComponentOutline

/-! ## Sorting behind a front -/

section

variable {α : Type} {le : α → α → Bool}

/-- What is taken while a condition holds is the front, if it holds there and never behind. -/
theorem takeWhile_append_of_all
    {keeps : α → Bool}
    {front back : List α}
    (inFront : ∀ item ∈ front, keeps item = true)
    (inBack : ∀ item ∈ back, keeps item = false) :
    (front ++ back).takeWhile keeps = front := by
  rw [List.takeWhile_append_of_pos inFront]
  cases back with
  | nil => rw [List.takeWhile_nil, List.append_nil]
  | cons first rest =>
      have stops := inBack first List.mem_cons_self
      rw [List.takeWhile_cons_of_neg (by simp [stops]), List.append_nil]

/-- A sorted list that is less than all the rest comes first. -/
theorem mergeSort_append_of_less
    {less items : List α}
    (trans : ∀ a b c, le a b = true → le b c = true → le a c = true)
    (total : ∀ a b, (le a b || le b a) = true)
    (sorted : less.Pairwise fun a b => le a b = true)
    (isLess : ∀ item ∈ items, ∀ other ∈ less, le item other = false) :
    (items ++ less).mergeSort le = less ++ items.mergeSort le := by
  induction items with
  | nil => rw [List.nil_append, List.mergeSort_of_pairwise sorted, List.mergeSort_nil,
      List.append_nil]
  | cons item items inductionHypothesis =>
      have before {front back : List α}
          (isSorted : (front ++ item :: back).Pairwise fun a b => le a b = true)
          (isBefore : ∀ other ∈ front, (!le item other) = true) :
          (front ++ back).takeWhile (fun other => !le item other) = front := by
        refine takeWhile_append_of_all isBefore fun other isIn => ?_
        have after := (List.pairwise_cons.1 (List.pairwise_append.1 isSorted).2.1).1 other isIn
        rw [after]
        rfl
      obtain ⟨isLessItem, others⟩ := List.forall_mem_cons.1 isLess
      obtain ⟨front, back, isAll, isRest, isBefore⟩ :=
        List.mergeSort_cons trans total item (items ++ less)
      obtain ⟨inner, outer, isItems, isInner, isBeforeToo⟩ :=
        List.mergeSort_cons trans total item items
      have sortedAll := List.pairwise_mergeSort trans total (item :: (items ++ less))
      have sortedItems := List.pairwise_mergeSort trans total (item :: items)
      rw [isAll] at sortedAll
      rw [isItems] at sortedItems
      rw [inductionHypothesis others, isInner] at isRest
      have isFront : front = less ++ inner := by
        rw [← before sortedAll isBefore, ← isRest, List.takeWhile_append_of_pos,
          before sortedItems isBeforeToo]
        intro other isIn
        rw [isLessItem other isIn]
        rfl
      rw [isFront, List.append_assoc, List.append_cancel_left_eq, List.append_cancel_left_eq]
        at isRest
      rw [List.cons_append, isAll, isItems, isFront, isRest, List.append_assoc]

end

namespace Tagged

open CodePoint Console Segment

variable {text front back word style : Text} {styles : List Text}

/-! ## Shifted markings -/

/-- A tag that was opened later. -/
def OpenTag.shift (count : Nat) (tag : OpenTag) : OpenTag :=
  { tag with start := count + tag.start }

/-- A span further back. -/
def Span.shift (count : Nat) (span : Span) : Span :=
  ⟨count + span.start, count + span.stop, span.style⟩

namespace Marking

/-- A marking further back, behind spans that are complete. -/
def shift (count : Nat) (before : List Span) (marking : Marking) : Marking :=
  ⟨marking.openTags.map (OpenTag.shift count), marking.spans.map (Span.shift count) ++ before⟩

variable {count position : Nat} {before : List Span} {marking : Marking}

theorem openTag_shift (content : Text) :
    (marking.shift count before).openTag (count + position) content =
      (marking.openTag position content).map (shift count before) := by
  rw [openTag, openTag]
  cases normalNameOf (tagName content) with
  | error fault => rfl
  | ok name => rfl

theorem close_shift
    {matching : OpenTag → Bool}
    (same : matching ∘ OpenTag.shift count = matching) :
    (marking.shift count before).close (count + position) matching =
      (marking.close position matching).map (shift count before) := by
  rw [close, close, shift, List.find?_map, same]
  cases found : marking.openTags.find? matching with
  | none => rfl
  | some tag =>
      have isClosable : (tag.shift count).isClosable = tag.isClosable := rfl
      have hasAction : (tag.shift count).hasAction = tag.hasAction := rfl
      rw [Option.map_some]
      dsimp only
      rw [isClosable, hasAction, List.eraseP_map, same]
      cases tag.isClosable with
      | false => rfl
      | true =>
          cases tag.hasAction with
          | false => rfl
          | true => rfl

/-- A tag does the same further back. -/
theorem applyTag_shift (content : Text) :
    (marking.shift count before).applyTag (count + position) content =
      (marking.applyTag position content).map (shift count before) := by
  rw [applyTag, applyTag]
  split
  · exact openTag_shift content
  · next first rest _ =>
      split
      · dsimp only
        split
        · exact close_shift rfl
        · cases normalNameOf (Text.trimmed rest) with
          | error fault => rfl
          | ok target => exact close_shift rfl
      · exact openTag_shift content

/-- What comes later is marked in the same way. -/
theorem applyPieces_shift (pieces : List Piece) :
    (marking.shift count before).applyPieces (count + position) pieces =
      (marking.applyPieces position pieces).map fun marked =>
        (count + marked.1, marked.2.shift count before) := by
  induction pieces generalizing position marking with
  | nil => rfl
  | cons piece rest inductionHypothesis =>
      cases piece with
      | run text =>
          rw [applyPieces, applyPieces, Nat.add_assoc]
          · exact inductionHypothesis
          all_goals exact fun content same => by cases same
      | literal text =>
          rw [applyPieces, applyPieces, Nat.add_assoc]
          · exact inductionHypothesis
          all_goals exact fun content same => by cases same
      | tag content =>
          rw [applyPieces, applyPieces, applyTag_shift]
          cases marking.applyTag position content with
          | error fault => rfl
          | ok next => exact inductionHypothesis

/-- Complete spans that start at the front come first. -/
theorem spansTo_shift
    (atFront : ∀ span ∈ before, span.start = 0)
    (further : before = [] ∨ 0 < count) :
    (marking.shift count before).spansTo (count + position) =
      before ++ (marking.spansTo position).map (Span.shift count) := by
  have gathered (tags : List OpenTag) (spans : List Span) :
      (tags.map (OpenTag.shift count)).foldl
          (fun spans tag => tag.spanTo (count + position) :: spans)
          (spans.map (Span.shift count) ++ before) =
        (tags.foldl (fun spans tag => tag.spanTo position :: spans) spans).map
          (Span.shift count) ++ before := by
    induction tags generalizing spans with
    | nil => rfl
    | cons tag rest inductionHypothesis => exact inductionHypothesis (tag.spanTo position :: spans)
  rw [spansTo, spansTo, shift, gathered, mergeSort_append_of_less, ← List.map_mergeSort]
  · intro span _ other _
    simp [Span.shift]
  · intro first second third
    simp only [decide_eq_true_eq]
    exact Nat.le_trans
  · intro first second
    simpa using Nat.le_total first.start second.start
  · refine List.pairwise_iff_forall_sublist.2 fun sub => ?_
    have inBefore := List.Sublist.subset sub
    simp [atFront _ (inBefore List.mem_cons_self)]
  · intro span isShifted other isBefore
    obtain ⟨earlier, -, rfl⟩ := List.mem_map.1 isShifted
    obtain rfl | positive := further
    · cases isBefore
    · simp only [Span.shift, atFront other isBefore, decide_eq_false_iff_not]
      omega

/-- Without tags the marking stays the same. -/
theorem applyPieces_of_noTag
    {pieces : List Piece}
    (noTag : ∀ content, .tag content ∉ pieces)
    (position : Nat)
    (marking : Marking) :
    marking.applyPieces position pieces =
      .ok (position + (pieces.flatMap Piece.shown).length, marking) := by
  induction pieces generalizing position with
  | nil => rfl
  | cons piece rest inductionHypothesis =>
      have noneAfter : ∀ content, .tag content ∉ rest :=
        fun content isIn => noTag content (List.mem_cons_of_mem _ isIn)
      rw [List.flatMap_cons, List.length_append, ← Nat.add_assoc]
      cases piece with
      | tag content => exact absurd List.mem_cons_self (noTag content)
      | run text => exact inductionHypothesis noneAfter _
      | literal text => exact inductionHypothesis noneAfter _

/-! ## Closing tags that come first -/

/-- Where no tag is open, none can be closed. -/
theorem applyTag_of_closing
    {name : Text}
    (noBracket : ofChar '(' ∉ name)
    (position : Nat)
    (spans : List Span) :
    applyTag position (ofChar '/' :: name) ⟨[], spans⟩ = .error .nothingToClose := by
  have isName : tagName (ofChar '/' :: name) = ofChar '/' :: tagName name := rfl
  have noneInLabel : roundBracket ∉ Text.trimmed (tagName name) := by
    intro isIn
    have inReversed := List.mem_reverse.1 isIn
    have inDropped := (List.dropWhile_sublist _).subset inReversed
    have inName := (List.dropWhile_sublist _).subset (List.mem_reverse.1 inDropped)
    exact noBracket ((List.takeWhile_sublist _).subset inName)
  obtain ⟨normal, isNormal⟩ := exists_normalNameOf_eq noneInLabel
  rw [applyTag, isName]
  simp only [if_pos, isNormal]
  split
  · rfl
  · rfl

/-- A closing tag that comes first has nothing to close. -/
theorem applyPieces_of_firstTag?
    {pieces : List Piece}
    {name : Text}
    (isFirst : Piece.firstTag? pieces = some (ofChar '/' :: name))
    (noBracket : ofChar '(' ∉ name)
    (position : Nat)
    (spans : List Span) :
    applyPieces position ⟨[], spans⟩ pieces = .error .nothingToClose := by
  induction pieces generalizing position with
  | nil => cases isFirst
  | cons piece rest inductionHypothesis =>
      cases piece with
      | run text => exact inductionHypothesis isFirst _
      | literal text => exact inductionHypothesis isFirst _
      | tag content =>
          obtain rfl := Option.some.inj isFirst
          rw [applyPieces, applyTag_of_closing noBracket]
          rfl

end Marking

/-! ## Words between tags -/

/-- A style with a normal name that a tag opens and the same tag with a slash closes. -/
structure IsStyle (style : Text) : Prop where
  isTag : IsTag style
  opens : style.head? ≠ some (ofChar '/')
  noAction : style.head? ≠ some (ofChar '@')
  noParameters : ofChar '=' ∉ style
  isTrimmed : Text.trimmed style = style
  isNormal : ∃ read : Style, style.style = .ok (some read) ∧ read.normalName = style

/-- Whether a code point is a small letter. -/
def isLetter (point : CodePoint) : Bool :=
  97 ≤ point.val && point.val ≤ 122

/-- Whether a text is made of small letters and blanks, with a letter in front. -/
def isLettered (text : Text) : Bool :=
  text.head?.any isLetter && text.all fun point => isLetter point || point = Console.blank

/-- A style that is its own normal name, with nothing but letters and blanks in it. -/
theorem isStyle_of_isLettered
    (read : Style)
    {words : List Text}
    (lettered : isLettered style = true)
    (isTrimmed : style.trimmed = style)
    (notNone : style ≠ Text.ofString "none")
    (cut : style.words = words)
    (isRead : Style.plain.ofWords words = .ok (some read))
    (isNormal : read.normalName = style) :
    IsStyle style := by
  cases style with
  | nil => cases lettered
  | cons first inside =>
      rw [isLettered, Bool.and_eq_true, List.all_eq_true] at lettered
      obtain ⟨starts, each⟩ := lettered
      have differs {mark : CodePoint}
          (noLetter : (isLetter mark || mark = Console.blank) = false) :
          mark ∉ first :: inside := by
        intro isIn
        rw [each mark isIn] at noLetter
        cases noLetter
      have startsTag : first.startsTag = true := by
        have isFirst : isLetter first = true := starts
        rw [isLetter] at isFirst
        rw [CodePoint.startsTag, isFirst]
        rfl
      refine ⟨⟨first, inside, rfl, startsTag, ?_, ?_⟩, ?_, ?_, ?_, isTrimmed, read, ?_, isNormal⟩
      · exact fun isIn => differs (by decide) (List.mem_cons_of_mem _ isIn)
      · exact fun isIn => differs (by decide) (List.mem_cons_of_mem _ isIn)
      · exact fun same => differs (by decide) (List.mem_of_mem_head? same)
      · exact fun same => differs (by decide) (List.mem_of_mem_head? same)
      · exact differs (by decide)
      · rw [Text.style, if_neg (isTrimmed.symm ▸ notNone), cut, isRead]

namespace IsStyle

variable (isStyle : IsStyle style)

include isStyle

theorem isTag_closing : IsTag (ofChar '/' :: style) := by
  obtain ⟨first, inside, rfl, starts, noOpening, noClosing⟩ := isStyle.isTag
  refine ⟨ofChar '/', first :: inside, rfl, by decide, ?_, ?_⟩
  · rw [List.mem_cons, not_or]
    refine ⟨?_, noOpening⟩
    rintro rfl
    exact absurd starts (by decide)
  · rw [List.mem_cons, not_or]
    refine ⟨?_, noClosing⟩
    rintro rfl
    exact absurd starts (by decide)

theorem tagName_eq : tagName style = style :=
  List.takeWhile_eq_self_iff.2 fun point isIn => by
    rw [decide_eq_true_eq]
    rintro rfl
    exact isStyle.noParameters isIn

theorem tagParameters_eq : tagParameters style = none := by
  have nothing : style.dropWhile (fun point => point ≠ ofChar '=') = [] :=
    List.dropWhile_eq_nil_iff.2 fun point isIn => by
      rw [decide_eq_true_eq]
      rintro rfl
      exact isStyle.noParameters isIn
  rw [tagParameters, nothing]

theorem ne_nil : style ≠ [] := by
  obtain ⟨first, inside, rfl, -⟩ := isStyle.isTag
  exact List.cons_ne_nil _ _

/-- A style is its own normal name. -/
theorem normalNameOf_eq : normalNameOf style = .ok style := by
  obtain ⟨read, isRead, isNormal⟩ := isStyle.isNormal
  rw [normalNameOf, Text.normalName, isRead]
  exact congrArg Except.ok isNormal

theorem isReadable : style.style.isOk = true := by
  obtain ⟨read, isRead, -⟩ := isStyle.isNormal
  rw [isRead]
  rfl

/-- The tag of a style opens it. -/
theorem applyTag_opening (position : Nat) (marking : Marking) :
    marking.applyTag position style =
      .ok { marking with openTags := ⟨style, none, position⟩ :: marking.openTags } := by
  have opened : marking.openTag position style =
      .ok { marking with openTags := ⟨style, none, position⟩ :: marking.openTags } := by
    rw [Marking.openTag, isStyle.tagName_eq, isStyle.normalNameOf_eq, isStyle.tagParameters_eq]
    rfl
  rw [Marking.applyTag, isStyle.tagName_eq]
  obtain ⟨first, inside, rfl, -⟩ := isStyle.isTag
  have noSlash : first ≠ ofChar '/' := fun same => isStyle.opens (by rw [same]; rfl)
  exact (if_neg noSlash).trans opened

/-- The tag with a slash closes the style that was opened last. -/
theorem applyTag_closing (start position : Nat) (openTags : List OpenTag) (spans : List Span) :
    Marking.applyTag position (ofChar '/' :: style) ⟨⟨style, none, start⟩ :: openTags, spans⟩ =
      .ok ⟨openTags, ⟨start, position, style⟩ :: spans⟩ := by
  have isName : tagName (ofChar '/' :: style) = ofChar '/' :: style := by
    have step : tagName (ofChar '/' :: style) = ofChar '/' :: tagName style := rfl
    rw [step, isStyle.tagName_eq]
  have nonempty : style.isEmpty = false := List.isEmpty_eq_false_iff.2 isStyle.ne_nil
  have noAction (tag : OpenTag) (isName : tag.name = style) : tag.hasAction = false := by
    rw [OpenTag.hasAction, isName]
    exact decide_eq_false isStyle.noAction
  rw [Marking.applyTag, isName]
  simp only [if_pos, isStyle.isTrimmed, nonempty, isStyle.normalNameOf_eq]
  simp [bind, Except.bind, Marking.close, OpenTag.isClosable, noAction, OpenTag.spanTo,
    OpenTag.style]

end IsStyle

/-- The styles of labels are their own normal names. -/
theorem isStyle_of_mem_basicStyles : ∀ style ∈ basicStyles, IsStyle style := by
  have bold : IsStyle (Text.ofString "bold") := by
    have cut : (Text.ofString "bold").words = [Text.ofString "bold"] := rfl
    exact isStyle_of_isLettered (Style.plain.switch .bold true) rfl rfl (by decide) cut rfl rfl
  have dim : IsStyle (Text.ofString "dim") := by
    have cut : (Text.ofString "dim").words = [Text.ofString "dim"] := rfl
    exact isStyle_of_isLettered (Style.plain.switch .dim true) rfl rfl (by decide) cut rfl rfl
  have cyan : IsStyle (Text.ofString "cyan") := by
    have cut : (Text.ofString "cyan").words = [Text.ofString "cyan"] := rfl
    exact isStyle_of_isLettered { Style.plain with color := some (Text.ofString "cyan") } rfl rfl
      (by decide) cut rfl rfl
  have magenta : IsStyle (Text.ofString "magenta") := by
    have cut : (Text.ofString "magenta").words = [Text.ofString "magenta"] := rfl
    exact isStyle_of_isLettered { Style.plain with color := some (Text.ofString "magenta") } rfl
      rfl (by decide) cut rfl rfl
  have boldGreen : IsStyle (Text.ofString "bold green") := by
    have cut : (Text.ofString "bold green").words =
        [Text.ofString "bold", Text.ofString "green"] := rfl
    exact isStyle_of_isLettered
      { Style.plain.switch .bold true with color := some (Text.ofString "green") } rfl rfl
      (by decide) cut rfl rfl
  rw [basicStyles, List.forall_mem_map]
  simp only [List.forall_mem_cons, List.not_mem_nil, false_implies, implies_true, and_true]
  exact ⟨bold, dim, cyan, magenta, boldGreen⟩

/-- A word that the tags around it leave alone. -/
structure IsWord (word : Text) : Prop where
  literal : IsLiteral word []
  nonempty : word ≠ []
  noOpening : opening ∉ word
  noSlash : backslash ∉ word

namespace IsWord

variable (isWord : IsWord word)

include isWord

theorem visible_eq : Piece.visible word = word :=
  Piece.visible_of_literal isWord.literal.noCode isWord.literal.noControl

/-- A word is put in front of the run that comes next. -/
theorem pieces_append (rest : Text) : pieces (word ++ rest) = Piece.addRun word (pieces rest) :=
  pieces_append_of_isLiteral
    { isWord.literal with noTag := not_startsTag_of_notMem isWord.noOpening }
    (slashesAfter_of_notMem isWord.noSlash) isWord.nonempty

variable (allStyles : ∀ style ∈ styles, IsStyle style)
    (ends : styles ≠ [] ∨ ∃ content rest, IsTag content ∧ back = written content ++ rest)

include allStyles ends

/-- What comes after a word between tags is marked as if nothing had been opened. -/
theorem applyPieces_styled (position : Nat) (openTags : List OpenTag) (spans : List Span) :
    Marking.applyPieces position ⟨openTags, spans⟩ (pieces (styled styles word ++ back)) =
      Marking.applyPieces (position + word.length)
        ⟨openTags, (styles.map fun style => ⟨position, position + word.length, style⟩) ++ spans⟩
        (pieces back) := by
  induction styles generalizing back openTags with
  | nil =>
      obtain nonempty | ⟨content, rest, isTag, rfl⟩ := ends
      · exact absurd rfl nonempty
      · have isWordAlone : styled [] word = word := rfl
        rw [isWordAlone, isWord.pieces_append, pieces_written_append isTag]
        simp only [Piece.addRun, Marking.applyPieces, Piece.shown,
          isWord.visible_eq, Piece.visible_nil, List.length_nil, Nat.add_zero, List.map_nil,
          List.nil_append]
  | cons style styles inductionHypothesis =>
      obtain ⟨isStyle, others⟩ := List.forall_mem_cons.1 allStyles
      have parts : styled (style :: styles) word ++ back =
          written style ++ (styled styles word ++ (written (ofChar '/' :: style) ++ back)) := by
        simp [styled]
      rw [parts, pieces_written_append isStyle.isTag]
      simp only [Marking.applyPieces, Piece.shown, Piece.visible_nil, List.length_nil,
        Nat.add_zero, isStyle.applyTag_opening, bind, Except.bind]
      rw [inductionHypothesis others (.inr ⟨_, _, isStyle.isTag_closing, rfl⟩),
        pieces_written_append isStyle.isTag_closing]
      simp only [Marking.applyPieces, Piece.shown, Piece.visible_nil, List.length_nil,
        Nat.add_zero, isStyle.applyTag_closing, bind, Except.bind, List.map_cons,
        List.cons_append]

/-- Of the word and its tags the word is shown. -/
theorem shown_styled :
    (pieces (styled styles word ++ back)).flatMap Piece.shown =
      word ++ (pieces back).flatMap Piece.shown := by
  induction styles generalizing back with
  | nil =>
      obtain nonempty | ⟨content, rest, isTag, rfl⟩ := ends
      · exact absurd rfl nonempty
      · have isWordAlone : styled [] word = word := rfl
        rw [isWordAlone, isWord.pieces_append, pieces_written_append isTag]
        simp only [Piece.addRun, List.flatMap_cons, Piece.shown,
          isWord.visible_eq, Piece.visible_nil, List.nil_append]
  | cons style styles inductionHypothesis =>
      obtain ⟨isStyle, others⟩ := List.forall_mem_cons.1 allStyles
      have parts : styled (style :: styles) word ++ back =
          written style ++ (styled styles word ++ (written (ofChar '/' :: style) ++ back)) := by
        simp [styled]
      rw [parts, pieces_written_append isStyle.isTag]
      simp only [List.flatMap_cons, Piece.shown, Piece.visible_nil, List.nil_append]
      rw [inductionHypothesis others (.inr ⟨_, _, isStyle.isTag_closing, rfl⟩),
        pieces_written_append isStyle.isTag_closing]
      simp only [List.flatMap_cons, Piece.shown, Piece.visible_nil, List.nil_append]

end IsWord

/-! ## Rendered text -/

/-- Without tags a text is rendered, and nothing in it has a style. -/
theorem render_of_noTag (noTag : ∀ content, .tag content ∉ pieces text) :
    render text = .ok ⟨(pieces text).flatMap Piece.shown, []⟩ := by
  rw [render, Marking.applyPieces_of_noTag noTag]
  simp [bind, Except.bind, pure, Except.pure, Marking.start, Marking.spansTo]

/-- What is rendered is what is shown of the pieces. -/
theorem eq_of_render_eq {rendered : Rendered} (ok : render text = .ok rendered) :
    rendered.text = (pieces text).flatMap Piece.shown := by
  obtain ⟨⟨position, marking⟩, -, isRendered⟩ := Effect.ok_of_except_bind ok
  cases isRendered
  rfl

/-- Behind a word that leaves nothing open, a text is rendered as if it stood alone. -/
theorem render_behind
    {before : List Span}
    (marked : Marking.start.applyPieces 0 (pieces text) =
      Marking.applyPieces word.length ⟨[], before⟩ (pieces back))
    (shown : (pieces text).flatMap Piece.shown = word ++ (pieces back).flatMap Piece.shown)
    (atFront : ∀ span ∈ before, span.start = 0)
    (further : before = [] ∨ 0 < word.length) :
    render text = (render back).map fun rendered =>
      ⟨word ++ rendered.text, before ++ rendered.spans.map (Span.shift word.length)⟩ := by
  have shifted : Marking.applyPieces word.length ⟨[], before⟩ (pieces back) =
      (Marking.start.applyPieces 0 (pieces back)).map fun marked =>
        (word.length + marked.1, marked.2.shift word.length before) :=
    @Marking.applyPieces_shift word.length 0 before Marking.start (pieces back)
  rw [render, render, marked, shown, shifted]
  cases Marking.start.applyPieces 0 (pieces back) with
  | error fault => rfl
  | ok marked =>
      have spans := @Marking.spansTo_shift word.length marked.1 before marked.2 atFront further
      simp only [Except.map, bind, Except.bind, pure, Except.pure, spans]

end Tagged
end ComponentOutline
