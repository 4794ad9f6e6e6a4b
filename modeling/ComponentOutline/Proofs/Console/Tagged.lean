import ComponentOutline.Console.Tagged
import ComponentOutline.Proofs.Console.Emoji

/-!
# Segments of tagged text

Tagged text is cut into segments.  A tag counts in them exactly if it starts in the text and is
not escaped.  Of each segment a part is kept: a tag that counts is lost, an escaped one loses
half of its backslashes, and an opening bracket without a tag loses one.

Literal text is one run, in which everything is kept.  Behind text without tags, the first tag
among the pieces is the one that comes next.
-/

namespace ComponentOutline
namespace Tagged

open CodePoint Console

variable {text front back content after : Text} {point : CodePoint}

/-! ## Tags -/

/-- Whether a code point is no bracket. -/
def isPassed (point : CodePoint) : Bool :=
  !(point = opening || point = closing)

theorem beforeBracket_eq (text : Text) : beforeBracket text = text.takeWhile isPassed := rfl

theorem fromBracket_eq (text : Text) : fromBracket text = text.dropWhile isPassed := rfl

theorem isPassed_iff : isPassed point = true ↔ point ≠ opening ∧ point ≠ closing := by
  simp [isPassed]

/-- A tag is found up to its closing bracket. -/
theorem tag?_of_isTag (isTag : IsTag content) (after : Text) :
    tag? (content ++ closing :: after) = some (content, after) := by
  obtain ⟨first, inside, rfl, starts, noOpening, noClosing⟩ := isTag
  have passed : ∀ point ∈ inside, isPassed point = true := by
    intro point isIn
    exact isPassed_iff.2
      ⟨fun same => noOpening (same ▸ isIn), fun same => noClosing (same ▸ isIn)⟩
  have stops : ¬ isPassed closing = true := by decide
  rw [List.cons_append, tag?, if_pos starts, fromBracket_eq, beforeBracket_eq,
    List.dropWhile_append_of_pos passed, List.takeWhile_append_of_pos passed,
    List.dropWhile_cons_of_neg stops, List.takeWhile_cons_of_neg stops, List.append_nil]
  exact if_pos rfl

/-- What is found is a tag. -/
theorem isTag_of_tag? (found : tag? text = some (content, after)) :
    IsTag content ∧ text = content ++ closing :: after := by
  cases text with
  | nil => cases found
  | cons first rest =>
      rw [tag?] at found
      split at found
      · next starts =>
          split at found
          · cases found
          · next bracket tail same =>
              split at found
              · next isClosing =>
                  cases found
                  have parts : beforeBracket rest ++ fromBracket rest = rest :=
                    List.takeWhile_append_dropWhile
                  have passed : ∀ point ∈ beforeBracket rest, isPassed point = true :=
                    fun _ => List.mem_takeWhile_imp
                  rw [same, isClosing] at parts
                  refine ⟨⟨first, _, rfl, starts, ?_, ?_⟩, ?_⟩
                  · exact fun isIn => absurd (passed _ isIn) (by decide)
                  · exact fun isIn => absurd (passed _ isIn) (by decide)
                  · rw [List.cons_append, parts]
              · cases found
      · cases found

/-- A tag is found exactly if one goes on from here. -/
theorem tagFollows_iff : TagFollows text ↔ ∃ found, tag? text = some found := by
  constructor
  · rintro ⟨content, after, isTag, rfl⟩
    exact ⟨_, tag?_of_isTag isTag after⟩
  · rintro ⟨⟨content, after⟩, found⟩
    obtain ⟨isTag, same⟩ := isTag_of_tag? found
    exact ⟨content, after, isTag, same⟩

theorem tag?_eq_none_of_not_tagFollows (noTag : ¬ TagFollows text) : tag? text = none := by
  rwa [tagFollows_iff, not_exists, ← Option.eq_none_iff_forall_ne_some] at noTag

/-! ## Segments -/

theorem segmentsAfter_nil (slashes : Nat) : segmentsAfter slashes [] = [.finish slashes] := by
  rw [segmentsAfter]

theorem segmentsAfter_backslash (slashes : Nat) (rest : Text) :
    segmentsAfter slashes (backslash :: rest) = segmentsAfter (slashes + 1) rest := by
  rw [segmentsAfter, if_pos rfl]

theorem segmentsAfter_tag
    {rest : Text}
    (slashes : Nat)
    (found : tag? rest = some (content, after)) :
    segmentsAfter slashes (opening :: rest) = .tag slashes content :: segments after := by
  rw [segmentsAfter, if_neg (by decide), if_pos rfl]
  split
  · next foundContent foundAfter alsoFound =>
      rw [found] at alsoFound
      cases alsoFound
      rfl
  · next notFound => rw [found] at notFound; cases notFound

theorem segmentsAfter_plain
    {rest : Text}
    (slashes : Nat)
    (noSlash : point ≠ backslash)
    (noTag : point = opening → tag? rest = none) :
    segmentsAfter slashes (point :: rest) = .plain slashes point :: segments rest := by
  rw [segmentsAfter, if_neg noSlash]
  split
  · next isOpening =>
      split
      · next found => rw [noTag isOpening] at found; cases found
      · rfl
  · rfl

namespace Segment

theorem slashRun_zero_append (text : Text) : slashRun 0 ++ text = text := rfl

/-- Backslashes right before backslashes. -/
theorem slashRun_succ_append (slashes : Nat) (rest : Text) :
    slashRun (slashes + 1) ++ rest = slashRun slashes ++ backslash :: rest := by
  rw [slashRun, slashRun, List.replicate_succ', List.append_assoc]
  rfl

/-- What is kept of a segment: a tag that counts is lost, and half of the backslashes before a
tag; an opening bracket without a tag loses one. -/
def kept : Segment → Text
  | .tag slashes content =>
      if slashes % 2 = 1 then slashRun (slashes / 2) ++ written content
      else slashRun (slashes / 2)
  | .plain slashes point =>
      slashRun (if point = opening then slashes - 1 else slashes) ++ [point]
  | .finish slashes => slashRun slashes

/-- A tag counts unless an odd number of backslashes stands before it. -/
def IsLive : Segment → Prop
  | .tag slashes _ => slashes % 2 = 0
  | _ => False

/-- Nothing is kept of a segment that was not written. -/
theorem kept_sublist_source (segment : Segment) : segment.kept.Sublist segment.source := by
  have fewer {few many : Nat} (le : few ≤ many) : (slashRun few).Sublist (slashRun many) :=
    (List.replicate_sublist_replicate _).2 le
  cases segment with
  | tag slashes content =>
      rw [kept, source]
      split
      · exact (fewer (Nat.div_le_self _ _)).append (List.Sublist.refl _)
      · exact (fewer (Nat.div_le_self _ _)).trans (List.sublist_append_left _ _)
  | plain slashes point =>
      rw [kept, source]
      refine List.Sublist.append (fewer ?_) (List.Sublist.refl _)
      split
      · exact Nat.sub_le _ _
      · exact Nat.le_refl _
  | finish slashes => exact List.Sublist.refl _

end Segment

open Segment

/-- The segments of a text are written as the text. -/
theorem source_segmentsAfter (slashes : Nat) (text : Text) :
    (segmentsAfter slashes text).flatMap source = slashRun slashes ++ text := by
  fun_induction segmentsAfter slashes text with
  | case1 slashes => simp [source]
  | case2 slashes rest inductionHypothesis =>
      rw [inductionHypothesis, slashRun_succ_append]
  | case3 slashes rest content after found _ _ inductionHypothesis =>
      obtain ⟨-, rfl⟩ := isTag_of_tag? found
      rw [List.flatMap_cons, inductionHypothesis, source, written]
      simp [slashRun]
  | case4 slashes rest notFound _ inductionHypothesis =>
      rw [List.flatMap_cons, inductionHypothesis, source]
      simp [slashRun]
  | case5 slashes point rest _ _ inductionHypothesis =>
      rw [List.flatMap_cons, inductionHypothesis, source]
      simp [slashRun]

/-- The segments of a text make up the text. -/
theorem source_segments (text : Text) : (segments text).flatMap source = text :=
  source_segmentsAfter 0 text

/-! ## Tags that count -/

/-- A tag counts exactly if it starts in the text and nothing escapes it. -/
theorem exists_isLive_iff (slashes : Nat) (text : Text) :
    (∃ segment ∈ segmentsAfter slashes text, segment.IsLive) ↔ StartsTag slashes text [] := by
  fun_induction segmentsAfter slashes text with
  | case1 slashes => simp [IsLive, not_startsTag_nil]
  | case2 slashes rest inductionHypothesis =>
      rw [inductionHypothesis, startsTag_cons, if_pos rfl]
      exact (or_iff_right fun starts => absurd starts.1 (by decide)).symm
  | case3 slashes rest content after found _ _ inductionHypothesis =>
      obtain ⟨isTag, rfl⟩ := isTag_of_tag? found
      have passed : opening ∉ content ++ [closing] := by
        have notClosing : opening ≠ closing := by decide
        simp [isTag.opening_notMem, notClosing]
      have parts : content ++ closing :: after = (content ++ [closing]) ++ after := by simp
      have follows : TagFollows (content ++ closing :: after ++ []) :=
        ⟨content, after, isTag, by simp⟩
      rw [List.exists_mem_cons_iff, inductionHypothesis, startsTag_cons, if_neg (by decide), parts,
        startsTag_append_of_notMem passed, slashesAfter_concat (by decide), ← parts, IsLive]
      exact or_congr_left ⟨fun even => ⟨rfl, even, follows⟩, fun starts => starts.2.1⟩
  | case4 slashes rest notFound _ inductionHypothesis =>
      have noTag : ¬ TagFollows (rest ++ []) := by
        rw [List.append_nil, tagFollows_iff, notFound]
        simp
      rw [List.exists_mem_cons_iff, inductionHypothesis, startsTag_cons, if_neg (by decide)]
      exact or_congr_left ⟨False.elim, fun starts => noTag starts.2.2⟩
  | case5 slashes point rest noSlash noOpening inductionHypothesis =>
      rw [List.exists_mem_cons_iff, inductionHypothesis, startsTag_cons, if_neg noSlash]
      exact or_congr_left ⟨False.elim, fun starts => noOpening starts.1⟩

/-- Some tag counts exactly if the text has one that is not escaped. -/
theorem exists_isLive_segments_iff :
    (∃ segment ∈ segments text, segment.IsLive) ↔ HasTag text :=
  exists_isLive_iff 0 text

/-- No more brackets are kept than are written, and fewer if a tag counts. -/
theorem count_flatMap_kept (segments : List Segment) :
    (segments.flatMap kept).count opening ≤ (segments.flatMap source).count opening ∧
      ((∃ segment ∈ segments, segment.IsLive) →
        (segments.flatMap kept).count opening < (segments.flatMap source).count opening) := by
  have live (segment : Segment) (isLive : segment.IsLive) :
      segment.kept.count opening < segment.source.count opening := by
    cases segment with
    | tag slashes content =>
        have even : ¬ slashes % 2 = 1 := by
          rw [IsLive] at isLive
          omega
        have noneKept : (slashRun (slashes / 2)).count opening = 0 :=
          List.count_eq_zero.2 fun isIn => absurd (List.eq_of_mem_replicate isIn) (by decide)
        rw [kept, if_neg even, noneKept, source, written, List.count_append,
          List.count_cons_self]
        omega
    | plain slashes point => exact isLive.elim
    | finish slashes => exact isLive.elim
  induction segments with
  | nil => simp
  | cons segment rest inductionHypothesis =>
      obtain ⟨least, fewer⟩ := inductionHypothesis
      have here := segment.kept_sublist_source.count_le opening
      rw [List.flatMap_cons, List.flatMap_cons, List.count_append, List.count_append]
      refine ⟨Nat.add_le_add here least, ?_⟩
      rw [List.exists_mem_cons_iff]
      rintro (isLive | further)
      · exact Nat.add_lt_add_of_lt_of_le (live segment isLive) least
      · exact Nat.add_lt_add_of_le_of_lt here (fewer further)

/-! ## Brackets behind a backslash -/

/-- A slashed bracket starts the text, or it stands further back. -/
theorem hasSlashedBracket_cons {rest : Text} :
    HasSlashedBracket (point :: rest) ↔
      (point = backslash ∧ rest.head? = some opening) ∨ HasSlashedBracket rest := by
  have atHead : [opening] <+: rest ↔ rest.head? = some opening := by
    cases rest with
    | nil => simp
    | cons first rest => simp [List.cons_prefix_cons, eq_comm]
  rw [HasSlashedBracket, List.infix_cons_iff, List.cons_prefix_cons, atHead,
    eq_comm (a := backslash)]
  rfl

/-- A run of backslashes makes a slashed bracket with the bracket after it. -/
theorem hasSlashedBracket_run {rest : Text} (noSlash : point ≠ backslash) (slashes : Nat) :
    HasSlashedBracket (slashRun slashes ++ point :: rest) ↔
      (0 < slashes ∧ point = opening) ∨ HasSlashedBracket rest := by
  induction slashes with
  | zero => simp [slashRun, hasSlashedBracket_cons, noSlash]
  | succ slashes inductionHypothesis =>
      have step : slashRun (slashes + 1) ++ point :: rest =
          backslash :: (slashRun slashes ++ point :: rest) := rfl
      rw [step, hasSlashedBracket_cons, inductionHypothesis]
      cases slashes with
      | zero => simp [slashRun]
      | succ slashes =>
          have notOpening : backslash ≠ opening := by decide
          simp [slashRun, List.replicate_succ, notOpening]

end Tagged
end ComponentOutline
