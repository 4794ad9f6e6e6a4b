import ComponentOutline.Effect
import ComponentOutline.Proofs.Literal.Equations
import ComponentOutline.Proofs.Syntax.Occurrence
import ComponentOutline.Proofs.Text.Utf16
import Mathlib.Data.List.Forall2

/-!
# The code units of a string literal

The fragments and escapes of a string literal add up to its value in code units, and no unit
is lost or changed.  Escapes may name halves of pairs.  If the halves fit together, each pair
becomes one character, wherever its halves came from; otherwise none of them is joined.
-/

namespace ComponentOutline
namespace Literal

/-- Whether a child adds anything to a string. -/
def isPart (child : Node) : Bool :=
  child.kind == "string_fragment" || child.kind == "escape_sequence"

/-- What a child adds to a string: a fragment its text, an escape what it stands for. -/
inductive Adds (child : Node) : Text → Prop
  | fragment {fragment : String}
      (kind : child.kind = "string_fragment")
      (read : child.text = .ok fragment) :
      Adds child (Text.ofString fragment)
  | escape {sequence : String} {point : Text}
      (kind : child.kind = "escape_sequence")
      (read : child.text = .ok sequence)
      (decoded : decodeEscape sequence = .ok point) :
      Adds child point

/-- What a string is that parts add up to. -/
structure IsSum (parts : List Text) (value : Text) : Prop where
  /-- Its units are those of the parts. -/
  units_eq : value.units = parts.flatMap Text.units
  /-- It has no surrogates exactly if the units are well formed. -/
  free_iff : value.IsFree ↔ IsWellFormed (parts.flatMap Text.units)
  /-- A high unit of well-formed units and the low one behind it are one character. -/
  joined : IsWellFormed (parts.flatMap Text.units) →
    ∀ front high low back, parts.flatMap Text.units = front ++ high :: low :: back →
      high.IsHigh → low.IsLow → value.Joins front high low back
  /-- If the units are not well formed, nothing is joined. -/
  plain : ¬ IsWellFormed (parts.flatMap Text.units) → value = parts.flatten

/-- A part that counts adds what it is decoded to. -/
theorem adds_of_isPart
    {child : Node}
    {text : Text}
    (counts : isPart child = true)
    (decoded : decodePart child = .ok text) :
    Adds child text := by
  rw [isPart, Bool.or_eq_true, beq_iff_eq, beq_iff_eq] at counts
  cases read : child.readText with
  | error failure =>
      obtain kind | kind := counts
      · rw [decodePart, kind, read] at decoded
        cases decoded
      · rw [decodePart, kind, read] at decoded
        cases decoded
  | ok found =>
      have isText := Node.readText_eq_ok_iff.mp read
      obtain kind | kind := counts
      · rw [decodePart_of_fragment kind read] at decoded
        cases decoded
        exact .fragment kind isText
      · rw [decodePart_of_escape kind read] at decoded
        cases stands : decodeEscape found with
        | error fault =>
            rw [stands] at decoded
            cases decoded
        | ok point =>
            rw [stands] at decoded
            cases decoded
            exact .escape kind isText stands

/-- A part that does not count is decoded to nothing. -/
theorem decodePart_eq_nil
    {child : Node}
    {text : Text}
    (counts : isPart child = false)
    (decoded : decodePart child = .ok text) :
    text = [] := by
  rw [isPart, Bool.or_eq_false_iff] at counts
  rw [decodePart, counts.1, counts.2, if_neg Bool.false_ne_true, if_neg Bool.false_ne_true]
    at decoded
  split at decoded
  · cases decoded
  · cases decoded
    rfl

/-- Parts that are decoded are added up in order. -/
theorem exists_parts
    {children : List Node}
    {text : Text}
    (decoded : decodeParts children = .ok text) :
    ∃ parts, List.Forall₂ Adds (children.filter isPart) parts ∧ text = parts.flatten := by
  induction children generalizing text with
  | nil =>
      cases decoded
      exact ⟨[], .nil, rfl⟩
  | cons child rest inductionHypothesis =>
      rw [decodeParts] at decoded
      obtain ⟨front, decodedFront, decoded⟩ := Effect.ok_of_except_bind decoded
      obtain ⟨back, decodedBack, isSum⟩ := Effect.ok_of_except_bind decoded
      obtain ⟨parts, add, rfl⟩ := inductionHypothesis decodedBack
      cases isSum
      rw [List.filter_cons]
      split
      · next counts => exact ⟨front :: parts, .cons (adds_of_isPart counts decodedFront) add, rfl⟩
      · next passedOver =>
          rw [Bool.not_eq_true] at passedOver
          rw [decodePart_eq_nil passedOver decodedFront]
          exact ⟨parts, add, rfl⟩

/-- A string literal that is decoded has the code units of its parts, joined where they are
well formed. -/
theorem decodeString_keeps_units
    {node : Node}
    {value : Text}
    (decoded : decodeString node = .ok value) :
    ∃ parts, List.Forall₂ Adds (node.namedChildren.filter isPart) parts ∧ IsSum parts value := by
  obtain ⟨text, decodedParts, rfl⟩ := Effect.ok_of_except_map decoded
  obtain ⟨parts, add, rfl⟩ := exists_parts decodedParts
  have sum := Text.units_flatten parts
  obtain ⟨sameUnits, freeIff⟩ := Text.units_joinSurrogates parts.flatten
  rw [sum] at sameUnits freeIff
  refine ⟨parts, add, sameUnits, freeIff, ?_, ?_⟩
  · intro wellFormed front high low back divided isHigh _
    rw [← sameUnits] at divided
    exact Text.joins_of_units_eq (freeIff.mpr wellFormed) divided isHigh
  · rw [← sum]
    exact Text.joinSurrogates_of_not_isWellFormed

/-- A string whose pair is split over escapes of two forms. -/
def splitPair : Node :=
  .ofText "string" none "'a\\uD83D\\u\x7bDE00\x7d'" [
    .ofText "string_fragment" none "a" [],
    .ofText "escape_sequence" none "\\uD83D" [],
    .ofText "escape_sequence" none "\\u\x7bDE00\x7d" []]

/-- A pair that is split between two escapes is joined. -/
theorem decodeString_keeps_units_splitPair :
    decodeString splitPair = .ok [0x61, 0x1F600] ∧
      ∃ parts, List.Forall₂ Adds (splitPair.namedChildren.filter isPart) parts ∧
        IsSum parts [0x61, 0x1F600] := by
  have decoded : decodeString splitPair = .ok [0x61, 0x1F600] := by rfl
  exact ⟨decoded, decodeString_keeps_units decoded⟩

end Literal
end ComponentOutline
