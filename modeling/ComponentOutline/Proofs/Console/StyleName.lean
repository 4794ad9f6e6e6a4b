import ComponentOutline.Console.Style
import ComponentOutline.Console.Tagged

/-!
# Names of styles without round brackets

The name of a style is read word by word.  Only a color with components in round brackets can
be unreadable, so that a name without such brackets always has a normal name.  Small letters
never bring a bracket in.
-/

namespace ComponentOutline

open Console

/-- The round bracket before the components of a color. -/
def CodePoint.roundBracket : CodePoint := ofChar '('

open CodePoint

/-! ## Small letters -/

/-- All small forms in the table come after the round bracket. -/
theorem CaseTable.lt_small_of_mem_runs :
    ∀ run ∈ CaseTable.runs, roundBracket.val < run.small := by
  decide +kernel

/-- No other code point has a round bracket for its small form. -/
theorem CodePoint.small_ne_roundBracket {point : CodePoint} (differs : point ≠ roundBracket) :
    point.small ≠ roundBracket := by
  have other {number : Nat} (less : roundBracket.val < number) :
      ofNatD number point ≠ roundBracket := by
    rw [ofNatD]
    split
    · exact Fin.ne_of_val_ne (Nat.ne_of_gt less)
    · exact differs
  have isForty : roundBracket.val = 40 := rfl
  rw [small]
  split
  · split
    · next isCapital =>
        rw [Bool.and_eq_true, decide_eq_true_eq] at isCapital
        exact other (by omega)
    · exact differs
  · split
    · next run found =>
        have less := CaseTable.lt_small_of_mem_runs run (List.mem_of_find?_eq_some found)
        exact other (by omega)
    · exact differs

/-- Small letters bring in no round bracket. -/
theorem Text.roundBracket_notMem_lowered {text : Text} (noBracket : roundBracket ∉ text) :
    roundBracket ∉ text.lowered := by
  have each (endsWord : Bool) {point : CodePoint} (differs : point ≠ roundBracket) :
      roundBracket ∉ point.lowered endsWord := by
    have noneInOthers : roundBracket ∉ [ofChar 'i', dotAbove] ∧ roundBracket ∉ [finalSigma] := by
      decide
    rw [CodePoint.lowered]
    split
    · exact noneInOthers.1
    · split
      · exact noneInOthers.2
      · rw [List.mem_singleton]
        exact (small_ne_roundBracket differs).symm
  rw [lowered]
  generalize false = word
  induction text generalizing word with
  | nil => exact List.not_mem_nil
  | cons point rest inductionHypothesis =>
      rw [List.mem_cons, not_or] at noBracket
      rw [loweredAfter, List.mem_append, not_or]
      exact ⟨each _ (Ne.symm noBracket.1), inductionHypothesis noBracket.2 _⟩

/-! ## Words -/

theorem mem_of_mem_splitOnP
    {α : Type}
    {separates : α → Bool}
    {items part : List α}
    {item : α}
    (isPart : part ∈ items.splitOnP separates)
    (isIn : item ∈ part) :
    item ∈ items := by
  induction items generalizing part with
  | nil =>
      rw [List.splitOnP_nil, List.mem_singleton] at isPart
      rwa [isPart] at isIn
  | cons first rest inductionHypothesis =>
      rw [List.splitOnP_cons_eq_if_modifyHead] at isPart
      split at isPart
      · obtain rfl | further := List.mem_cons.1 isPart
        · cases isIn
        · exact List.mem_cons_of_mem _ (inductionHypothesis further isIn)
      · obtain ⟨head, parts, same⟩ :=
          List.exists_cons_of_ne_nil (List.splitOnP_ne_nil separates rest)
        rw [same, List.modifyHead_cons, List.mem_cons] at isPart
        obtain rfl | further := isPart
        · obtain rfl | inHead := List.mem_cons.1 isIn
          · exact List.mem_cons_self
          · exact List.mem_cons_of_mem _
              (inductionHypothesis (same ▸ List.mem_cons_self) inHead)
        · exact List.mem_cons_of_mem _
            (inductionHypothesis (same ▸ List.mem_cons_of_mem _ further) isIn)

/-- Nor do the words of a text. -/
theorem Text.roundBracket_notMem_of_mem_words
    {text : Text}
    (noBracket : roundBracket ∉ text) :
    ∀ word ∈ text.words, roundBracket ∉ word :=
  fun _ isWord isIn => noBracket (mem_of_mem_splitOnP (List.mem_filter.1 isWord).1 isIn)

/-! ## Colors and styles -/

/-- A color without round brackets has no components to be read. -/
theorem Color.argument?_eq_none
    {word : Text}
    (noBracket : roundBracket ∉ word)
    (name : String) :
    argument? name word = none := by
  refine if_neg fun found => noBracket ?_
  rw [Bool.and_eq_true, List.isPrefixOf_iff_prefix] at found
  refine found.1.subset ?_
  rw [Text.ofString, String.toList_append, List.map_append]
  exact List.mem_append_right _ (List.mem_singleton_self _)

/-- Without round brackets, every word is a color or none. -/
theorem Color.exists_isWord_eq {word : Text} (noBracket : roundBracket ∉ word) :
    ∃ answer, isWord word = .ok answer := by
  rw [isWord]
  split
  · exact ⟨true, rfl⟩
  · rw [argument?_eq_none noBracket, argument?_eq_none noBracket]
    exact ⟨false, rfl⟩

/-- Without round brackets, a style can be read, or words name none. -/
theorem Style.exists_ofWords_eq
    {words : List Text}
    (noBracket : ∀ word ∈ words, roundBracket ∉ word)
    (style : Style) :
    ∃ read, style.ofWords words = .ok read := by
  have colored {word : Text} {next : Except ConversionFault (Option Style)}
      (noneInWord : roundBracket ∉ word)
      (further : ∃ read, next = .ok read) :
      ∃ read, (do if ← Color.isWord word then next else return none) = .ok read := by
    obtain ⟨answer, isAnswer⟩ := Color.exists_isWord_eq noneInWord
    rw [isAnswer]
    cases answer with
    | true => exact further
    | false => exact ⟨none, rfl⟩
  fun_induction Style.ofWords style words with
  | case1 style => exact ⟨_, rfl⟩
  | case2 style word lowered isOn => exact ⟨_, rfl⟩
  | case3 style word lowered isOn color rest inductionHypothesis =>
      obtain ⟨-, inColor, inRest⟩ := List.forall_mem_cons.1 noBracket |>.imp_right
        List.forall_mem_cons.1
      exact colored (Text.roundBracket_notMem_lowered inColor) (inductionHypothesis inRest)
  | case4 style word lowered notOn isNot => exact ⟨_, rfl⟩
  | case5 style word lowered notOn isNot name rest emphasis found inductionHypothesis =>
      exact inductionHypothesis fun other isIn =>
        noBracket other (List.mem_cons_of_mem _ (List.mem_cons_of_mem _ isIn))
  | case6 style word lowered notOn isNot name rest notFound => exact ⟨_, rfl⟩
  | case7 style word lowered notOn notNot isLink => exact ⟨_, rfl⟩
  | case8 style word lowered notOn notNot isLink address rest inductionHypothesis =>
      exact inductionHypothesis fun other isIn =>
        noBracket other (List.mem_cons_of_mem _ (List.mem_cons_of_mem _ isIn))
  | case9 style word rest lowered notOn notNot notLink emphasis found inductionHypothesis =>
      exact inductionHypothesis fun other isIn => noBracket other (List.mem_cons_of_mem _ isIn)
  | case10 style word rest lowered notOn notNot notLink notFound inductionHypothesis =>
      obtain ⟨inWord, inRest⟩ := List.forall_mem_cons.1 noBracket
      exact colored (Text.roundBracket_notMem_lowered inWord) (inductionHypothesis inRest)

/-- A name without round brackets has a normal name. -/
theorem Tagged.exists_normalNameOf_eq {name : Text} (noBracket : roundBracket ∉ name) :
    ∃ normal, normalNameOf name = .ok normal := by
  have read : ∃ style, name.style = .ok style := by
    rw [Text.style]
    split
    · exact ⟨_, rfl⟩
    · exact Style.exists_ofWords_eq (Text.roundBracket_notMem_of_mem_words noBracket) _
  obtain ⟨style, isStyle⟩ := read
  rw [normalNameOf, Text.normalName, isStyle]
  cases style with
  | none => exact ⟨_, rfl⟩
  | some style => exact ⟨_, rfl⟩

end ComponentOutline
