import ComponentOutline.Effect
import ComponentOutline.Proofs.Console.Escaped

/-!
# Pieces of tagged text

The pieces of a tagged text are shown one by one, with emoji codes replaced and without some
controls.  No bracket comes into a text in this way, and a tag that counts is lost.  Literal
text is a run that is shown as it is, alone or in front of other text.  Without tags that count
nothing can go wrong.
-/

namespace ComponentOutline
namespace Tagged

open CodePoint Console Segment

namespace Piece

/-! ## Pieces of segments -/

/-- The text of a piece; a tag has none. -/
def text : Piece → Text
  | .run text => text
  | .literal text => text
  | .tag _ => []

@[simp] theorem flatMap_text_addRun (added : Text) (pieces : List Piece) :
    (addRun added pieces).flatMap text = added ++ pieces.flatMap text := by
  cases pieces with
  | nil => simp [addRun, text]
  | cons piece rest =>
      cases piece with
      | run more => simp [addRun, text]
      | literal more => simp [addRun, text]
      | tag content => simp [addRun, text]

/-- The pieces hold what is kept of the segments. -/
theorem flatMap_text_ofSegments (segments : List Segment) :
    (ofSegments segments).flatMap text = segments.flatMap kept := by
  induction segments with
  | nil => rfl
  | cons segment rest inductionHypothesis =>
      cases segment with
      | tag slashes content =>
          rw [ofSegments, List.flatMap_cons, kept, ← inductionHypothesis]
          split
          · rfl
          · rfl
      | plain slashes point =>
          rw [ofSegments, flatMap_text_addRun, inductionHypothesis, List.flatMap_cons, kept]
      | finish slashes =>
          rw [ofSegments, flatMap_text_addRun, inductionHypothesis, List.flatMap_cons, kept]

theorem mem_addRun_tag
    {content added : Text}
    {pieces : List Piece}
    (isIn : .tag content ∈ addRun added pieces) :
    .tag content ∈ pieces := by
  cases pieces with
  | nil => simp [addRun] at isIn
  | cons piece rest =>
      cases piece with
      | run more => simpa [addRun] using isIn
      | literal more => simpa [addRun] using isIn
      | tag content => simpa [addRun] using isIn

/-- A tag among the pieces counts. -/
theorem exists_isLive_of_mem_ofSegments
    {content : Text}
    {segments : List Segment}
    (isIn : .tag content ∈ ofSegments segments) :
    ∃ segment ∈ segments, segment.IsLive := by
  induction segments with
  | nil => cases isIn
  | cons segment rest inductionHypothesis =>
      have further (inRest : .tag content ∈ ofSegments rest) :
          ∃ other ∈ segment :: rest, other.IsLive := by
        obtain ⟨other, inside, live⟩ := inductionHypothesis inRest
        exact ⟨other, List.mem_cons_of_mem _ inside, live⟩
      cases segment with
      | tag slashes inside =>
          rw [ofSegments] at isIn
          split at isIn
          · exact further (by simpa using isIn)
          · next even => exact ⟨_, List.mem_cons_self, Nat.mod_two_ne_one.1 even⟩
      | plain slashes point => exact further (mem_addRun_tag isIn)
      | finish slashes => exact further (mem_addRun_tag isIn)

theorem addRun_addRun (first second : Text) (pieces : List Piece) :
    addRun first (addRun second pieces) = addRun (first ++ second) pieces := by
  cases pieces with
  | nil => simp [addRun]
  | cons piece rest =>
      cases piece with
      | run more => simp [addRun]
      | literal more => simp [addRun]
      | tag content => simp [addRun]

/-! ## What is shown of pieces -/

/-- Whether a code point is shown. -/
def isShown (point : CodePoint) : Bool :=
  !isDropped point

theorem visible_eq (text : Text) : visible text = (Emoji.replaceCodes text).filter isShown := rfl

theorem isShown_of_isControl {point : CodePoint} (noControl : point.isControl = false) :
    isShown point = true := by
  simp only [CodePoint.isControl, Bool.and_eq_false_iff, decide_eq_false_iff_not] at noControl
  simp only [isShown, isDropped, Bool.not_eq_true', Bool.or_eq_false_iff, decide_eq_false_iff_not]
  omega

/-- Text without codes and controls is shown as it is. -/
theorem visible_of_literal
    {text : Text}
    (noCode : ¬ HasCode text)
    (noControl : ∀ point ∈ text, point.isControl = false) :
    visible text = text := by
  rw [visible_eq, Emoji.replaceCodes_of_not_hasCode noCode, List.filter_eq_self]
  exact fun point isIn => isShown_of_isControl (noControl point isIn)

theorem visible_nil : visible [] = [] := by
  rw [visible_eq, Emoji.replaceCodes_nil]
  rfl

/-- No code reaches over a blank. -/
theorem visible_append_blank (text rest : Text) :
    visible (text ++ blank :: rest) = visible (text ++ [blank]) ++ visible rest := by
  rw [visible_eq, visible_eq, visible_eq, Emoji.replaceCodes_append_blank isBlank_blank,
    Emoji.replaceCodes_append_blank isBlank_blank, Emoji.replaceCodes_nil, ← List.filter_append,
    List.append_assoc]
  rfl

/-- A run that ends with a blank is shown apart from what it is put in front of. -/
theorem flatMap_shown_addRun_blank (text : Text) (pieces : List Piece) :
    (addRun (text ++ [blank]) pieces).flatMap shown =
      visible (text ++ [blank]) ++ pieces.flatMap shown := by
  cases pieces with
  | nil => simp [addRun, shown]
  | cons piece rest =>
      cases piece with
      | run more =>
          have parted := visible_append_blank text more
          simp [addRun, shown, parted]
      | literal more => simp [addRun, shown]
      | tag content => simp [addRun, shown]

/-- No more brackets are shown than the pieces hold. -/
theorem count_flatMap_shown_le (pieces : List Piece) :
    (pieces.flatMap shown).count opening ≤ (pieces.flatMap text).count opening := by
  have plain (text : Text) : (visible text).count opening ≤ text.count opening :=
    (List.filter_sublist.count_le opening).trans (Emoji.count_opening_replaceCodes_le text)
  have each (piece : Piece) : piece.shown.count opening ≤ piece.text.count opening := by
    cases piece with
    | run text => exact plain text
    | literal text => exact plain text
    | tag content => exact Nat.le_refl _
  induction pieces with
  | nil => exact Nat.le_refl _
  | cons piece rest inductionHypothesis =>
      rw [List.flatMap_cons, List.flatMap_cons, List.count_append, List.count_append]
      exact Nat.add_le_add (each piece) inductionHypothesis

/-! ## The first tag -/

/-- The first tag among pieces. -/
def firstTag? : List Piece → Option Text
  | [] => none
  | .tag content :: _ => some content
  | .run _ :: rest => firstTag? rest
  | .literal _ :: rest => firstTag? rest

/-- Text in front changes nothing about the tags. -/
theorem firstTag?_addRun (text : Text) (pieces : List Piece) :
    firstTag? (addRun text pieces) = firstTag? pieces := by
  cases pieces with
  | nil => rfl
  | cons piece rest =>
      cases piece with
      | run more => rfl
      | literal more => rfl
      | tag content => rfl

end Piece

/-! ## Tags behind other text -/

variable {text front back content after : Text} {point : CodePoint} {slashes : Nat}

/-- A tag further back is not part of one that starts here. -/
theorem tag?_append_written (text content after : Text) :
    tag? (text ++ (written content ++ after)) =
      (tag? text).map fun found => (found.1, found.2 ++ (written content ++ after)) := by
  cases found : tag? text with
  | some code =>
      obtain ⟨isTag, same⟩ := isTag_of_tag? found
      rw [same, List.append_assoc, List.cons_append]
      exact tag?_of_isTag isTag _
  | none =>
      rw [Option.map_none, Option.eq_none_iff_forall_ne_some]
      rintro ⟨inside, beyond⟩ foundInAll
      obtain ⟨isTag, same⟩ := isTag_of_tag? foundInAll
      obtain ⟨rest, isInside, isRest⟩ | ⟨rest, isText, isRest⟩ := List.append_eq_append_iff.1 same
      · cases rest with
        | nil => exact absurd (List.cons.inj isRest).1 (by decide)
        | cons first rest =>
            obtain rfl : opening = first := (List.cons.inj isRest).1
            exact isTag.opening_notMem (by simp [isInside])
      · cases rest with
        | nil => exact absurd (List.cons.inj isRest).1 (by decide)
        | cons first rest =>
            obtain rfl : closing = first := (List.cons.inj isRest).1
            rw [isText, tag?_of_isTag isTag] at found
            cases found

/-- Behind text without tags that count, an even number of backslashes lets a tag count, and
it is the first one. -/
theorem firstTag?_of_written
    (isTag : IsTag content)
    (noTag : ¬ StartsTag slashes front [])
    (even : slashesAfter slashes front % 2 = 0) :
    Piece.firstTag? (Piece.ofSegments
      (segmentsAfter slashes (front ++ (written content ++ after)))) = some content := by
  fun_induction segmentsAfter slashes front with
  | case1 slashes =>
      have isAll : written content ++ after = opening :: (content ++ closing :: after) := by
        simp [written]
      have counts : ¬ slashes % 2 = 1 := by
        rw [slashesAfter_nil] at even
        omega
      rw [List.nil_append, isAll, segmentsAfter_tag slashes (tag?_of_isTag isTag after),
        Piece.ofSegments, if_neg counts]
      rfl
  | case2 slashes rest inductionHypothesis =>
      rw [startsTag_cons, if_pos rfl, not_or] at noTag
      rw [slashesAfter_cons, if_pos rfl] at even
      rw [List.cons_append, segmentsAfter_backslash]
      exact inductionHypothesis noTag.2 even
  | case3 slashes rest inside beyond found _ _ inductionHypothesis =>
      obtain ⟨isInside, rfl⟩ := isTag_of_tag? found
      have follows : TagFollows (inside ++ closing :: beyond ++ []) :=
        ⟨inside, beyond, isInside, by simp⟩
      have passed : opening ∉ inside ++ [closing] := by
        have notClosing : opening ≠ closing := by decide
        simp [isInside.opening_notMem, notClosing]
      have parts : inside ++ closing :: beyond = (inside ++ [closing]) ++ beyond := by simp
      rw [startsTag_cons, if_neg (by decide), not_or, parts, startsTag_append_of_notMem passed,
        slashesAfter_concat (by decide), ← parts] at noTag
      rw [slashesAfter_cons, if_neg (by decide), parts, slashesAfter_append,
        slashesAfter_concat (by decide)] at even
      have odd : slashes % 2 = 1 := by
        by_contra counts
        exact noTag.1 ⟨rfl, by omega, follows⟩
      have foundInAll := tag?_append_written (inside ++ closing :: beyond) content after
      rw [found, Option.map_some] at foundInAll
      rw [List.cons_append, segmentsAfter_tag slashes foundInAll, Piece.ofSegments, if_pos odd]
      exact inductionHypothesis noTag.2 even
  | case4 slashes rest notFound _ inductionHypothesis =>
      have noneInAll := tag?_append_written rest content after
      rw [notFound, Option.map_none] at noneInAll
      rw [startsTag_cons, if_neg (by decide), not_or] at noTag
      rw [slashesAfter_cons, if_neg (by decide)] at even
      rw [List.cons_append, segmentsAfter_plain slashes (by decide) fun _ => noneInAll,
        Piece.ofSegments, Piece.firstTag?_addRun]
      exact inductionHypothesis noTag.2 even
  | case5 slashes point rest noSlash noOpening inductionHypothesis =>
      rw [startsTag_cons, if_neg noSlash, not_or] at noTag
      rw [slashesAfter_cons, if_neg noSlash] at even
      rw [List.cons_append, segmentsAfter_plain slashes noSlash fun same => absurd same noOpening,
        Piece.ofSegments, Piece.firstTag?_addRun]
      exact inductionHypothesis noTag.2 even

/-! ## Literal text -/

/-- A code point of literal text is added to the run in front of the pieces after it. -/
theorem ofSegments_cons_of_literal
    (noSlash : point ≠ backslash)
    (noTag : ¬ StartsTag slashes (point :: front) back)
    (noBracket : ¬ HasSlashedBracket (slashRun slashes ++ point :: front)) :
    ¬ StartsTag 0 front back ∧ ¬ HasSlashedBracket front ∧
      Piece.ofSegments (segmentsAfter slashes (point :: (front ++ back))) =
        Piece.addRun (slashRun slashes ++ [point]) (pieces (front ++ back)) := by
  rw [startsTag_cons, if_neg noSlash, not_or] at noTag
  rw [hasSlashedBracket_run noSlash, not_or] at noBracket
  have alone (isOpening : point = opening) : slashes = 0 := by
    by_contra some
    exact noBracket.1 ⟨Nat.pos_of_ne_zero some, isOpening⟩
  have notFound (isOpening : point = opening) : tag? (front ++ back) = none := by
    refine tag?_eq_none_of_not_tagFollows fun follows => noTag.1 ⟨isOpening, ?_, follows⟩
    rw [alone isOpening]
  have all : (if point = opening then slashes - 1 else slashes) = slashes := by
    split
    · next isOpening => rw [alone isOpening]
    · rfl
  refine ⟨noTag.2, noBracket.2, ?_⟩
  rw [segmentsAfter_plain slashes noSlash notFound, Piece.ofSegments, all, pieces]

/-- Literal text that does not end in a backslash is a run in front of the pieces after it. -/
theorem ofSegments_of_literal
    (noTag : ¬ StartsTag slashes front back)
    (noBracket : ¬ HasSlashedBracket (slashRun slashes ++ front))
    (ends : slashesAfter slashes front = 0)
    (nonempty : front ≠ []) :
    Piece.ofSegments (segmentsAfter slashes (front ++ back)) =
      Piece.addRun (slashRun slashes ++ front) (pieces back) := by
  induction front generalizing slashes with
  | nil => exact absurd rfl nonempty
  | cons point front inductionHypothesis =>
      rw [slashesAfter_cons] at ends
      by_cases isSlash : point = backslash
      · rw [isSlash, startsTag_cons, if_pos rfl, not_or] at noTag
        rw [isSlash, ← slashRun_succ_append] at noBracket
        rw [if_pos isSlash] at ends
        have further : front ≠ [] := by
          rintro rfl
          cases ends
        rw [isSlash, List.cons_append, segmentsAfter_backslash,
          inductionHypothesis noTag.2 noBracket ends further, slashRun_succ_append]
      · obtain ⟨noTagAfter, noBracketAfter, cut⟩ :=
          ofSegments_cons_of_literal isSlash noTag noBracket
        rw [if_neg isSlash] at ends
        rw [List.cons_append, cut]
        cases front with
        | nil => rfl
        | cons next front =>
            rw [pieces, segments,
              inductionHypothesis noTagAfter noBracketAfter ends (List.cons_ne_nil _ _),
              Piece.addRun_addRun, slashRun_zero_append, List.append_assoc]
            rfl

/-- Literal text is one run. -/
theorem ofSegments_eq_run
    (noTag : ¬ StartsTag slashes text [])
    (noBracket : ¬ HasSlashedBracket (slashRun slashes ++ text)) :
    Piece.ofSegments (segmentsAfter slashes text) = [.run (slashRun slashes ++ text)] := by
  induction text generalizing slashes with
  | nil => rw [segmentsAfter_nil, List.append_nil]; rfl
  | cons point text inductionHypothesis =>
      by_cases isSlash : point = backslash
      · rw [isSlash, startsTag_cons, if_pos rfl, not_or] at noTag
        rw [isSlash, ← slashRun_succ_append] at noBracket
        rw [isSlash, segmentsAfter_backslash, inductionHypothesis noTag.2 noBracket,
          slashRun_succ_append]
      · obtain ⟨noTagAfter, noBracketAfter, cut⟩ :=
          ofSegments_cons_of_literal isSlash noTag noBracket
        rw [List.append_nil] at cut
        rw [cut, pieces, segments, inductionHypothesis noTagAfter noBracketAfter, Piece.addRun,
          slashRun_zero_append, List.append_assoc]
        rfl

/-- Literal text is one piece. -/
theorem pieces_of_isLiteral (literal : IsLiteral text []) : pieces text = [.run text] :=
  ofSegments_eq_run literal.noTag literal.noBracket

/-- Literal text in front is one run with what comes next. -/
theorem pieces_append_of_isLiteral
    (literal : IsLiteral front back)
    (ends : slashesAfter 0 front = 0)
    (nonempty : front ≠ []) :
    pieces (front ++ back) = Piece.addRun front (pieces back) :=
  ofSegments_of_literal literal.noTag literal.noBracket ends nonempty

/-- A tag is lost, and what comes after it stands as if it were alone. -/
theorem pieces_written_append (isTag : IsTag content) (rest : Text) :
    pieces (written content ++ rest) = .literal [] :: .tag content :: pieces rest := by
  have step := segmentsAfter_tag 0 (tag?_of_isTag isTag rest)
  have same : written content ++ rest = opening :: (content ++ closing :: rest) := by
    simp [written]
  rw [pieces, same, segments, step, Piece.ofSegments]
  rfl

/-! ## Brackets -/

/-- No tag that counts is among what is shown. -/
theorem count_shown_lt (hasTag : HasTag text) :
    ((pieces text).flatMap Piece.shown).count opening < text.count opening := by
  obtain ⟨-, fewer⟩ := count_flatMap_kept (segments text)
  have keptFewer := fewer (exists_isLive_segments_iff.2 hasTag)
  have shown := Piece.count_flatMap_shown_le (pieces text)
  rw [source_segments] at keptFewer
  rw [pieces, Piece.flatMap_text_ofSegments, ← pieces] at shown
  exact Nat.lt_of_le_of_lt shown keptFewer

/-- Without tags that count, there are none among the pieces. -/
theorem tag_notMem_pieces (noTag : ¬ HasTag text) : ∀ content, .tag content ∉ pieces text :=
  fun _ isIn => noTag
    (exists_isLive_segments_iff.1 (Piece.exists_isLive_of_mem_ofSegments isIn))

end Tagged
end ComponentOutline
