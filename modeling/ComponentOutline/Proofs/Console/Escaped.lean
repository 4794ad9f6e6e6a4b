import ComponentOutline.Proofs.Console.Tagged

/-!
# Escaped text

Escaping puts backslashes in front of all tags, one more than twice as many as there were, and
changes nothing else.  So the escaped text has the segments of the text, but none of its tags
counts.
-/

namespace ComponentOutline
namespace Tagged

open CodePoint Console Segment

variable {text content after : Text} {point : CodePoint}

namespace Segment

/-- A segment of the escaped text, by the segment of the text. -/
def guarded : Segment → Segment
  | .tag slashes content => .tag (slashes + slashes + 1) content
  | segment => segment

/-- One backslash more than twice as many is an odd number. -/
theorem not_isLive_guarded (segment : Segment) : ¬ segment.guarded.IsLive := by
  cases segment with
  | tag slashes content =>
      rw [guarded, IsLive]
      omega
  | plain slashes point => exact id
  | finish slashes => exact id

theorem escaped_plain (slashes : Nat) (point : CodePoint) :
    (plain slashes point).escaped = slashRun slashes ++ [point] := rfl

theorem escaped_finish (slashes : Nat) : (finish slashes).escaped = slashRun slashes := rfl

end Segment

/-- A text with the tags escaped behind a number of backslashes. -/
def escapedAfter (slashes : Nat) (text : Text) : Text :=
  (segmentsAfter slashes text).flatMap escaped

theorem escapedAfter_backslash (slashes : Nat) (rest : Text) :
    escapedAfter slashes (backslash :: rest) = escapedAfter (slashes + 1) rest := by
  rw [escapedAfter, segmentsAfter_backslash, escapedAfter]

/-- A tag gets as many backslashes as it had, and one more. -/
theorem escapedAfter_tag
    {rest : Text}
    (slashes : Nat)
    (found : tag? rest = some (content, after)) :
    escapedAfter slashes (opening :: rest) =
      slashRun (slashes + slashes + 1) ++
        opening :: (content ++ closing :: escapedAfter 0 after) := by
  rw [escapedAfter, segmentsAfter_tag slashes found, List.flatMap_cons, escaped, written]
  simp [escapedAfter, segments]

/-- What is no tag is kept. -/
theorem escapedAfter_plain
    {rest : Text}
    (slashes : Nat)
    (noSlash : point ≠ backslash)
    (noTag : point = opening → tag? rest = none) :
    escapedAfter slashes (point :: rest) = slashRun slashes ++ point :: escapedAfter 0 rest := by
  rw [escapedAfter, segmentsAfter_plain slashes noSlash noTag, List.flatMap_cons, escaped_plain]
  simp [escapedAfter, segments]

/-- Where no bracket is opened, there is nothing to escape. -/
theorem escapedAfter_of_notMem (noOpening : opening ∉ text) (slashes : Nat) :
    escapedAfter slashes text = slashRun slashes ++ text := by
  induction text generalizing slashes with
  | nil =>
      rw [escapedAfter, segmentsAfter_nil, List.flatMap_singleton, escaped_finish, List.append_nil]
  | cons point rest inductionHypothesis =>
      rw [List.mem_cons, not_or] at noOpening
      by_cases isSlash : point = backslash
      · rw [isSlash, escapedAfter_backslash, inductionHypothesis noOpening.2,
          slashRun_succ_append]
      · rw [escapedAfter_plain slashes isSlash fun same => absurd same.symm noOpening.1,
          inductionHypothesis noOpening.2, slashRun_zero_append]

/-! ## Escaping adds no tag -/

theorem fromBracket_slashRun_append (slashes : Nat) (text : Text) :
    fromBracket (slashRun slashes ++ text) = fromBracket text := by
  rw [fromBracket_eq, fromBracket_eq]
  refine List.dropWhile_append_of_pos fun point isSlash => ?_
  rw [List.eq_of_mem_replicate isSlash]
  decide

theorem fromBracket_cons (passed : isPassed point = true) (text : Text) :
    fromBracket (point :: text) = fromBracket text :=
  List.dropWhile_cons_of_pos passed

theorem fromBracket_of_bracket (bracket : ¬ isPassed point = true) (text : Text) :
    fromBracket (point :: text) = point :: text :=
  List.dropWhile_cons_of_neg bracket

/-- The next bracket stays the same. -/
theorem head?_fromBracket_escapedAfter (slashes : Nat) (text : Text) :
    (fromBracket (escapedAfter slashes text)).head? = (fromBracket text).head? := by
  unfold escapedAfter
  fun_induction segmentsAfter slashes text with
  | case1 slashes =>
      have nothing := fromBracket_slashRun_append slashes []
      rw [List.append_nil] at nothing
      simp [escaped_finish, nothing]
  | case2 slashes rest inductionHypothesis =>
      rw [inductionHypothesis, fromBracket_cons (by decide)]
  | case3 slashes rest content after found _ _ inductionHypothesis =>
      rw [List.flatMap_cons, escaped, List.append_assoc, fromBracket_slashRun_append, written,
        List.cons_append, fromBracket_of_bracket (by decide), fromBracket_of_bracket (by decide)]
      rfl
  | case4 slashes rest notFound _ inductionHypothesis =>
      rw [List.flatMap_cons, escaped_plain, List.append_assoc, fromBracket_slashRun_append,
        List.singleton_append, fromBracket_of_bracket (by decide),
        fromBracket_of_bracket (by decide)]
      rfl
  | case5 slashes point rest _ _ inductionHypothesis =>
      rw [List.flatMap_cons, escaped_plain, List.append_assoc, fromBracket_slashRun_append,
        List.singleton_append]
      by_cases passed : isPassed point = true
      · rw [fromBracket_cons passed, fromBracket_cons passed, inductionHypothesis]
      · rw [fromBracket_of_bracket passed, fromBracket_of_bracket passed]
        rfl

theorem tag?_eq_none_of_head (starts : point.startsTag = false) (rest : Text) :
    tag? (point :: rest) = none := by
  rw [tag?, starts, if_neg Bool.false_ne_true]

theorem tag?_cons_eq_none_iff (starts : point.startsTag = true) (rest : Text) :
    tag? (point :: rest) = none ↔ (fromBracket rest).head? ≠ some closing := by
  rw [tag?, if_pos starts]
  cases fromBracket rest with
  | nil => simp
  | cons bracket after => simp

/-- Escaping takes no backslash away from the front. -/
theorem exists_escapedAfter_eq (slashes : Nat) (text : Text) :
    ∃ rest, escapedAfter slashes text = slashRun slashes ++ rest := by
  unfold escapedAfter
  fun_induction segmentsAfter slashes text with
  | case1 slashes => exact ⟨[], by simp [escaped_finish]⟩
  | case2 slashes rest inductionHypothesis =>
      obtain ⟨others, same⟩ := inductionHypothesis
      exact ⟨backslash :: others, by rw [same, slashRun_succ_append]⟩
  | case3 slashes rest content after _ _ _ _ =>
      refine ⟨slashRun (slashes + 1) ++ (written content ++ escapedAfter 0 after), ?_⟩
      rw [List.flatMap_cons, escaped, Nat.add_assoc, slashRun, List.replicate_add,
        List.append_assoc, List.append_assoc]
      rfl
  | case4 slashes rest _ _ _ =>
      exact ⟨_, by rw [List.flatMap_cons, escaped_plain, List.append_assoc]⟩
  | case5 slashes point rest _ _ _ =>
      exact ⟨_, by rw [List.flatMap_cons, escaped_plain, List.append_assoc]⟩

/-- What is no tag is none after escaping. -/
theorem tag?_escapedAfter (noTag : tag? text = none) : tag? (escapedAfter 0 text) = none := by
  cases text with
  | nil =>
      rw [escapedAfter, segmentsAfter_nil]
      rfl
  | cons first rest =>
      by_cases isSlash : first = backslash
      · obtain ⟨others, same⟩ := exists_escapedAfter_eq 1 rest
        rw [isSlash, escapedAfter_backslash, same]
        exact tag?_eq_none_of_head (by decide) others
      · by_cases isTag : first = opening ∧ ∃ found, tag? rest = some found
        · obtain ⟨rfl, ⟨content, after⟩, found⟩ := isTag
          rw [escapedAfter_tag 0 found]
          exact tag?_eq_none_of_head (by decide) _
        · have noneInside : first = opening → tag? rest = none := by
            intro isOpening
            cases found : tag? rest with
            | none => rfl
            | some code => exact absurd ⟨isOpening, code, found⟩ isTag
          rw [escapedAfter_plain 0 isSlash noneInside]
          change tag? (first :: escapedAfter 0 rest) = none
          cases starts : first.startsTag with
          | false => exact tag?_eq_none_of_head starts _
          | true =>
              rw [tag?_cons_eq_none_iff starts] at noTag ⊢
              rwa [head?_fromBracket_escapedAfter]

theorem segmentsAfter_slashRun (slashes more : Nat) (text : Text) :
    segmentsAfter slashes (slashRun more ++ text) = segmentsAfter (slashes + more) text := by
  induction more generalizing slashes with
  | zero => rfl
  | succ more inductionHypothesis =>
      have step : slashRun (more + 1) ++ text = backslash :: (slashRun more ++ text) := rfl
      rw [step, segmentsAfter_backslash, inductionHypothesis, Nat.add_right_comm, Nat.add_assoc]

/-- The escaped text has the segments of the text, but none of the tags counts. -/
theorem segments_escapedAfter (slashes : Nat) (text : Text) :
    segments (escapedAfter slashes text) = (segmentsAfter slashes text).map guarded := by
  fun_induction segmentsAfter slashes text with
  | case1 slashes =>
      have cut := segmentsAfter_slashRun 0 slashes []
      rw [List.append_nil, Nat.zero_add, segmentsAfter_nil] at cut
      rw [escapedAfter, segmentsAfter_nil, List.flatMap_singleton, escaped_finish, segments, cut]
      rfl
  | case2 slashes rest inductionHypothesis =>
      rw [escapedAfter_backslash, inductionHypothesis]
  | case3 slashes rest content after found _ _ inductionHypothesis =>
      obtain ⟨isTag, -⟩ := isTag_of_tag? found
      rw [escapedAfter_tag slashes found, segments, segmentsAfter_slashRun,
        segmentsAfter_tag _ (tag?_of_isTag isTag _), inductionHypothesis, Nat.zero_add]
      rfl
  | case4 slashes rest notFound _ inductionHypothesis =>
      rw [escapedAfter_plain slashes (by decide) fun _ => notFound, segments,
        segmentsAfter_slashRun,
        segmentsAfter_plain _ (by decide) fun _ => tag?_escapedAfter notFound,
        inductionHypothesis, Nat.zero_add]
      rfl
  | case5 slashes point rest noSlash noOpening inductionHypothesis =>
      rw [escapedAfter_plain slashes noSlash fun same => absurd same noOpening, segments,
        segmentsAfter_slashRun, segmentsAfter_plain _ noSlash fun same => absurd same noOpening,
        inductionHypothesis, Nat.zero_add]
      rfl

/-- Escaping keeps the end of a text. -/
theorem getLast?_escapedAfter (slashes : Nat) (text : Text) :
    (escapedAfter slashes text).getLast? = (slashRun slashes ++ text).getLast? := by
  unfold escapedAfter
  fun_induction segmentsAfter slashes text with
  | case1 slashes => simp [escaped_finish]
  | case2 slashes rest inductionHypothesis =>
      rw [inductionHypothesis, slashRun_succ_append]
  | case3 slashes rest content after found _ _ inductionHypothesis =>
      obtain ⟨-, rfl⟩ := isTag_of_tag? found
      simp [escaped, written, inductionHypothesis, List.getLast?_append, List.getLast?_cons,
        slashRun]
  | case4 slashes rest _ _ inductionHypothesis =>
      simp [escaped_plain, inductionHypothesis, List.getLast?_append, List.getLast?_cons, slashRun]
  | case5 slashes point rest _ _ inductionHypothesis =>
      simp [escaped_plain, inductionHypothesis, List.getLast?_append, List.getLast?_cons, slashRun]

/-- A text that does not end in a backslash needs no guard at its end. -/
theorem escape_eq (ends : text.getLast? ≠ some backslash) : escape text = escapedAfter 0 text := by
  have sameEnd : (escapedAfter 0 text).getLast? = text.getLast? := getLast?_escapedAfter 0 text
  rw [← sameEnd, List.getLast?_eq_head?_reverse] at ends
  change guardEnd (escapedAfter 0 text) = _
  rw [guardEnd]
  split
  · next last before reversed =>
      rw [reversed, List.head?_cons, ne_eq, Option.some.injEq] at ends
      simp [ends]
  · rfl

/-- Escaping a text that does not end in a backslash guards each of its segments. -/
theorem segments_escape (ends : text.getLast? ≠ some backslash) :
    segments (escape text) = (segments text).map guarded := by
  rw [escape_eq ends, segments_escapedAfter, segments]

/-- No tag in escaped text counts. -/
theorem not_hasTag_escape (ends : text.getLast? ≠ some backslash) : ¬ HasTag (escape text) := by
  rw [← exists_isLive_segments_iff, segments_escape ends]
  rintro ⟨segment, isIn, isLive⟩
  obtain ⟨other, -, rfl⟩ := List.mem_map.1 isIn
  exact not_isLive_guarded other isLive

/-- Escaping adds nothing but backslashes. -/
theorem filter_escape (ends : text.getLast? ≠ some backslash) :
    (escape text).filter (· ≠ backslash) = text.filter (· ≠ backslash) := by
  have noneLeft (slashes : Nat) : (slashRun slashes).filter (· ≠ backslash) = [] := by
    rw [List.filter_eq_nil_iff]
    intro point isIn
    rw [List.eq_of_mem_replicate isIn]
    simp
  have each (segment : Segment) :
      segment.escaped.filter (· ≠ backslash) = segment.source.filter (· ≠ backslash) := by
    cases segment with
    | tag slashes content =>
        rw [escaped, source, List.filter_append, List.filter_append, noneLeft, noneLeft]
    | plain slashes point => rfl
    | finish slashes => rfl
  have all : (escape text).filter (· ≠ backslash) =
      ((segments text).flatMap source).filter (· ≠ backslash) := by
    rw [escape_eq ends, escapedAfter, segments]
    induction segmentsAfter 0 text with
    | nil => rfl
    | cons segment rest inductionHypothesis =>
        rw [List.flatMap_cons, List.flatMap_cons, List.filter_append, List.filter_append, each,
          inductionHypothesis]
  rw [all, source_segments]

end Tagged
end ComponentOutline
