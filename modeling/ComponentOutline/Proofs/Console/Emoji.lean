import ComponentOutline.Console.Emoji
import ComponentOutline.Proofs.Console.Markup
import Mathlib.Data.List.TakeWhile

/-!
# What replacing emoji codes changes

A code goes from one colon to the next one and holds no blank, and the emoji in its place has
no opening bracket.  So replacing codes adds no bracket, it changes nothing where there is no
code, and it works apart on what stands before a blank and on what stands after it.
-/

namespace ComponentOutline
namespace Emoji

open CodePoint

variable {text content after rest emoji : Text} {point : CodePoint}

/-! ## One step of the replacement -/

/-- A code ends at the next colon, and nothing before it ends a code. -/
theorem eq_of_code?_eq_some (found : code? text = some (content, after)) :
    text = content ++ colon :: after ∧ ∀ point ∈ content, isInside point = true := by
  rw [code?] at found
  split at found
  · cases found
  · next point tail same =>
      split at found
      · next isColon =>
          cases found
          have parts := List.takeWhile_append_dropWhile (p := isInside) (l := text)
          rw [same, isColon] at parts
          exact ⟨parts.symm, fun _ => List.mem_takeWhile_imp⟩
      · cases found

/-- What can stand in a code, up to a colon, is one. -/
theorem code?_of_inside
    (inside : ∀ point ∈ content, isInside point = true)
    (after : Text) :
    code? (content ++ colon :: after) = some (content, after) := by
  have ends : isInside colon = false := by simp [isInside]
  rw [code?, List.dropWhile_append_of_pos inside, List.takeWhile_append_of_pos inside,
    List.dropWhile_cons_of_neg (by simp [ends]), List.takeWhile_cons_of_neg (by simp [ends])]
  simp

@[simp] theorem replaceCodes_nil : replaceCodes [] = [] := by
  rw [replaceCodes]

theorem replaceCodes_of_ne (noColon : point ≠ colon) :
    replaceCodes (point :: rest) = point :: replaceCodes rest := by
  rw [replaceCodes, if_neg noColon]

/-- A code is replaced if it has an emoji, and it is kept if it has none. -/
theorem replaceCodes_of_code (found : code? rest = some (content, after)) :
    replaceCodes (colon :: rest) =
      (ofCode? content).getD (written content) ++ replaceCodes after := by
  rw [replaceCodes, if_pos rfl]
  split
  · next foundContent foundAfter alsoFound =>
      rw [found] at alsoFound
      cases alsoFound
      rfl
  · next notFound => rw [found] at notFound; cases notFound

theorem replaceCodes_of_none (notFound : code? rest = none) :
    replaceCodes (colon :: rest) = colon :: replaceCodes rest := by
  rw [replaceCodes, if_pos rfl]
  split
  · next found => rw [notFound] at found; cases found
  · rfl

/-! ## Brackets -/

theorem opening_notMem_of_named? {name : Text} (found : named? name = some emoji) :
    opening ∉ emoji := by
  obtain ⟨entry, -, rfl⟩ := Option.map_eq_some_iff.1 found
  exact entry.noOpening

theorem selector_ne_opening :
    ∀ presentation ∈ presentations, presentation.2 ≠ opening := by
  decide

/-- No emoji opens a bracket. -/
theorem opening_notMem_of_ofCode? (found : ofCode? content = some emoji) : opening ∉ emoji := by
  unfold ofCode? at found
  split at found
  · next ending selector isPresentation =>
      obtain ⟨plain, named, rfl⟩ := Option.map_eq_some_iff.1 found
      have differs := selector_ne_opening _ (List.mem_of_find?_eq_some isPresentation)
      simpa [opening_notMem_of_named? named] using differs.symm
  · exact opening_notMem_of_named? found

/-- Replacing codes adds no opening bracket. -/
theorem count_opening_replaceCodes_le (text : Text) :
    (replaceCodes text).count opening ≤ text.count opening := by
  have notColon : colon ≠ opening := by decide
  fun_induction replaceCodes text with
  | case1 => exact Nat.le_refl _
  | case2 rest content after found _ inductionHypothesis =>
      obtain ⟨rfl, -⟩ := eq_of_code?_eq_some found
      have code : ((ofCode? content).getD (written content)).count opening ≤
          content.count opening := by
        cases isCode : ofCode? content with
        | none => simp [written, List.count_cons_of_ne notColon]
        | some emoji =>
            rw [Option.getD_some, List.count_eq_zero.2 (opening_notMem_of_ofCode? isCode)]
            exact Nat.zero_le _
      rw [List.count_append, List.count_cons_of_ne notColon, List.count_append,
        List.count_cons_of_ne notColon]
      omega
  | case3 rest _ inductionHypothesis =>
      rwa [List.count_cons_of_ne notColon, List.count_cons_of_ne notColon]
  | case4 point rest noColon inductionHypothesis =>
      rw [List.count_cons, List.count_cons]
      omega

/-! ## Blanks -/

theorem not_isInside_of_isBlank (blank : point.isBlank = true) : ¬ isInside point = true := by
  simp [isInside, blank]

theorem ne_colon_of_isBlank (blank : point.isBlank = true) : point ≠ colon := by
  rintro rfl
  exact absurd blank (by decide)

/-- A blank ends the search for a code, whatever comes after it. -/
theorem code?_eq_none_of_append_blank
    (blank : point.isBlank = true)
    (notFound : code? text = none)
    (rest : Text) :
    code? (text ++ point :: rest) = none := by
  rw [code?] at notFound ⊢
  rw [List.dropWhile_append]
  cases outside : text.dropWhile isInside with
  | nil =>
      rw [List.isEmpty_nil, if_pos rfl,
        List.dropWhile_cons_of_neg (not_isInside_of_isBlank blank)]
      exact if_neg (ne_colon_of_isBlank blank)
  | cons first others =>
      rw [outside] at notFound
      rw [List.isEmpty_cons, if_neg Bool.false_ne_true]
      by_cases isColon : first = colon
      · simp [isColon] at notFound
      · exact if_neg isColon

/-- No code reaches over a blank. -/
theorem replaceCodes_append_blank
    (blank : point.isBlank = true)
    (text rest : Text) :
    replaceCodes (text ++ point :: rest) = replaceCodes text ++ point :: replaceCodes rest := by
  fun_induction replaceCodes text with
  | case1 => exact replaceCodes_of_ne (ne_colon_of_isBlank blank)
  | case2 others content after found _ inductionHypothesis =>
      obtain ⟨rfl, inside⟩ := eq_of_code?_eq_some found
      have stillFound :
          code? (content ++ colon :: after ++ point :: rest) =
            some (content, after ++ point :: rest) := by
        rw [List.append_assoc]
        exact code?_of_inside inside _
      rw [List.cons_append, replaceCodes_of_code stillFound, inductionHypothesis,
        List.append_assoc]
  | case3 others notFound inductionHypothesis =>
      have notFoundStill := code?_eq_none_of_append_blank blank notFound rest
      rw [List.cons_append, replaceCodes_of_none notFoundStill, inductionHypothesis,
        List.cons_append]
  | case4 first others noColon inductionHypothesis =>
      rw [List.cons_append, replaceCodes_of_ne noColon, inductionHypothesis, List.cons_append]

/-! ## Text without codes -/

/-- A code that is found is one in the sense of the markup. -/
theorem hasCode_of_code? (found : code? text = some (content, after)) :
    Console.HasCode (colon :: text) := by
  obtain ⟨rfl, inside⟩ := eq_of_code?_eq_some found
  refine ⟨content, fun point isIn => ?_, [], after, by simp⟩
  have isInContent := inside point isIn
  rw [isInside, Bool.and_eq_true, Bool.not_eq_true'] at isInContent
  exact isInContent.2

/-- Without codes there is nothing to replace. -/
theorem replaceCodes_of_not_hasCode (noCode : ¬ Console.HasCode text) :
    replaceCodes text = text := by
  induction text with
  | nil => exact replaceCodes_nil
  | cons point text inductionHypothesis =>
      have noneAfter : ¬ Console.HasCode text := fun ⟨content, inside, isIn⟩ =>
        noCode ⟨content, inside, isIn.trans (List.suffix_cons _ _).isInfix⟩
      by_cases isColon : point = colon
      · cases found : code? text with
        | none => rw [isColon, replaceCodes_of_none found, inductionHypothesis noneAfter]
        | some code => exact absurd (isColon ▸ hasCode_of_code? found) noCode
      · rw [replaceCodes_of_ne isColon, inductionHypothesis noneAfter]

end Emoji
end ComponentOutline
