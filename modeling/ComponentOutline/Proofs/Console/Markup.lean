import ComponentOutline.Console.Printer
import ComponentOutline.Text.Words
import Mathlib.Data.List.Infix

/-!
# Markup

A tag is what stands between two brackets, if it starts with the right code point and holds no
other bracket.  An odd number of backslashes before it escapes it.  A tag may start in one part
of a text and end in the next one, so what starts in a part depends on what stands behind it.

A text is literal if nothing in it means anything: no tag starts in it, no opening bracket
follows a backslash, and it holds neither an emoji code nor a control that a console drops or
lays out.
-/

namespace ComponentOutline

open CodePoint

/-- A list without a separator stands on one side of it. -/
theorem isInfix_append_cons_iff
    {α : Type}
    {inside front back : List α}
    {separator : α}
    (noneInside : separator ∉ inside) :
    inside <:+: front ++ separator :: back ↔ inside <:+: front ∨ inside <:+: back := by
  constructor
  · rintro ⟨before, after, same⟩
    obtain ⟨rest, isFront, -⟩ | ⟨rest, isBefore, isAfter⟩ := List.append_eq_append_iff.1 same
    · exact .inl ⟨before, rest, isFront.symm⟩
    · cases rest with
      | nil => exact .inl ⟨before, [], by rw [List.append_nil, isBefore, List.append_nil]⟩
      | cons first rest =>
          rw [List.cons_append, List.cons.injEq] at isAfter
          obtain ⟨rfl, isBack⟩ := isAfter
          obtain ⟨more, -, isInside⟩ | ⟨more, -, isRest⟩ := List.append_eq_append_iff.1 isBefore
          · exact absurd (by simp [isInside]) noneInside
          · cases more with
            | nil =>
                rw [List.nil_append] at isRest
                exact absurd (by simp [← isRest]) noneInside
            | cons other more =>
                rw [List.cons_append, List.cons.injEq] at isRest
                refine .inr ⟨more, after, ?_⟩
                rw [isBack, isRest.2]
  · rintro (inFront | inBack)
    · exact inFront.trans (List.prefix_append _ _).isInfix
    · exact inBack.trans ((List.suffix_cons _ _).trans (List.suffix_append _ _)).isInfix

/-- Whether a code point is one of the controls from the bell to the carriage return, which
are dropped or laid out. -/
def CodePoint.isControl (point : CodePoint) : Bool :=
  7 ≤ point.val && point.val ≤ 13

namespace Console

variable {text front middle back content after : Text} {point : CodePoint} {slashes : Nat}

/-! ## Tags -/

/-- What can stand between the brackets of a tag. -/
def IsTag (content : Text) : Prop :=
  ∃ first inside, content = first :: inside ∧ first.startsTag = true ∧
    opening ∉ inside ∧ closing ∉ inside

/-- The number of backslashes at the end of a text that stands behind some. -/
def slashesAfter (slashes : Nat) (text : Text) : Nat :=
  text.foldl (fun count point => if point = backslash then count + 1 else 0) slashes

/-- A tag that is not escaped starts in the front of a text, which stands behind a number of
backslashes.  It may end further back. -/
def StartsTag (slashes : Nat) (front back : Text) : Prop :=
  ∃ before content after, IsTag content ∧ before.length < front.length ∧
    front ++ back = before ++ (written content ++ after) ∧ slashesAfter slashes before % 2 = 0

/-- A text holds a tag that is not escaped. -/
def HasTag (text : Text) : Prop :=
  StartsTag 0 text []

/-- A tag goes on from behind its opening bracket. -/
def TagFollows (text : Text) : Prop :=
  ∃ content after, IsTag content ∧ text = content ++ closing :: after

@[simp] theorem slashesAfter_nil (slashes : Nat) : slashesAfter slashes [] = slashes := rfl

theorem slashesAfter_cons (slashes : Nat) (point : CodePoint) (text : Text) :
    slashesAfter slashes (point :: text) =
      slashesAfter (if point = backslash then slashes + 1 else 0) text := rfl

theorem slashesAfter_append (slashes : Nat) (front back : Text) :
    slashesAfter slashes (front ++ back) = slashesAfter (slashesAfter slashes front) back :=
  List.foldl_append

/-- Any other code point ends a run of backslashes. -/
theorem slashesAfter_concat (noSlash : point ≠ backslash) (slashes : Nat) (front : Text) :
    slashesAfter slashes (front ++ [point]) = 0 := by
  rw [slashesAfter_append, slashesAfter_cons, if_neg noSlash, slashesAfter_nil]

/-- Without backslashes there are none at the end. -/
theorem slashesAfter_of_notMem (noSlash : backslash ∉ text) : slashesAfter 0 text = 0 := by
  induction text with
  | nil => rfl
  | cons point text inductionHypothesis =>
      rw [List.mem_cons, not_or] at noSlash
      rw [slashesAfter_cons, if_neg (Ne.symm noSlash.1), inductionHypothesis noSlash.2]

/-- No tag is opened inside of another one. -/
theorem IsTag.opening_notMem (isTag : IsTag content) : opening ∉ content := by
  obtain ⟨first, inside, rfl, starts, noOpening, -⟩ := isTag
  rw [List.mem_cons, not_or]
  refine ⟨?_, noOpening⟩
  rintro rfl
  exact absurd starts (by decide)

/-- The first code point starts a tag, or one starts later. -/
theorem startsTag_cons :
    StartsTag slashes (point :: front) back ↔
      (point = opening ∧ slashes % 2 = 0 ∧ TagFollows (front ++ back)) ∨
        StartsTag (if point = backslash then slashes + 1 else 0) front back := by
  constructor
  · rintro ⟨before, content, after, isTag, starts, same, even⟩
    cases before with
    | nil =>
        rw [written, List.nil_append, List.cons_append, List.cons_append, List.append_assoc,
          List.cons.injEq] at same
        exact .inl ⟨same.1, even, content, after, isTag, same.2⟩
    | cons first before =>
        rw [List.cons_append, List.cons_append, List.cons.injEq] at same
        obtain ⟨rfl, same⟩ := same
        exact .inr ⟨before, content, after, isTag, Nat.lt_of_succ_lt_succ starts, same, even⟩
  · rintro (⟨rfl, even, content, after, isTag, rest⟩ |
      ⟨before, content, after, isTag, starts, same, even⟩)
    · refine ⟨[], content, after, isTag, Nat.succ_pos _, ?_, even⟩
      rw [List.cons_append, rest, written, List.nil_append, List.cons_append, List.append_assoc]
      rfl
    · refine ⟨point :: before, content, after, isTag, Nat.succ_lt_succ starts, ?_, even⟩
      rw [List.cons_append, same, List.cons_append]

theorem not_startsTag_nil : ¬ StartsTag slashes [] back :=
  fun ⟨_, _, _, _, starts, _⟩ => Nat.not_lt_zero _ starts

/-- What starts in two parts starts in one of them. -/
theorem startsTag_append :
    StartsTag slashes (front ++ middle) back ↔
      StartsTag slashes front (middle ++ back) ∨
        StartsTag (slashesAfter slashes front) middle back := by
  induction front generalizing slashes with
  | nil => simp [not_startsTag_nil]
  | cons point front inductionHypothesis =>
      rw [List.cons_append, startsTag_cons, startsTag_cons, inductionHypothesis,
        List.append_assoc, or_assoc, slashesAfter_cons]

/-- No tag starts where no bracket is opened. -/
theorem not_startsTag_of_notMem (noOpening : opening ∉ front) :
    ¬ StartsTag slashes front back := by
  induction front generalizing slashes with
  | nil => exact not_startsTag_nil
  | cons point front inductionHypothesis =>
      rw [List.mem_cons, not_or] at noOpening
      rw [startsTag_cons, not_or]
      exact ⟨fun starts => noOpening.1 starts.1.symm, inductionHypothesis noOpening.2⟩

/-- Text without opening brackets can be passed over. -/
theorem startsTag_append_of_notMem (noOpening : opening ∉ front) :
    StartsTag slashes (front ++ middle) back ↔
      StartsTag (slashesAfter slashes front) middle back := by
  rw [startsTag_append, or_iff_right (not_startsTag_of_notMem noOpening)]

/-! ## Literal text -/

/-- An opening bracket follows a backslash. -/
def HasSlashedBracket (text : Text) : Prop :=
  [backslash, opening] <:+: text

/-- A text holds two colons and no blank between them. -/
def HasCode (text : Text) : Prop :=
  ∃ content, (∀ point ∈ content, point.isBlank = false) ∧
    colon :: (content ++ [colon]) <:+: text

/-- Nothing in the front of a text means anything, whatever ends further back included. -/
structure IsLiteral (front back : Text) : Prop where
  noTag : ¬ StartsTag 0 front back
  noBracket : ¬ HasSlashedBracket front
  noCode : ¬ HasCode front
  noControl : ∀ point ∈ front, point.isControl = false

theorem isBlank_blank : blank.isBlank = true := by
  decide

/-- No slashed bracket reaches over a blank. -/
theorem hasSlashedBracket_append_blank :
    HasSlashedBracket (front ++ blank :: back) ↔
      HasSlashedBracket front ∨ HasSlashedBracket back :=
  isInfix_append_cons_iff (by decide)

/-- No code reaches over a blank. -/
theorem hasCode_append_blank :
    HasCode (front ++ blank :: back) ↔ HasCode front ∨ HasCode back := by
  have noneInside {content : Text} (inside : ∀ point ∈ content, point.isBlank = false) :
      blank ∉ colon :: (content ++ [colon]) := by
    have noBlank : blank ∉ content := by
      intro isIn
      have outside := inside blank isIn
      rw [isBlank_blank] at outside
      cases outside
    have noColon : blank ≠ colon := by decide
    simp [noBlank, noColon]
  constructor
  · rintro ⟨content, inside, isIn⟩
    obtain inFront | inBack := (isInfix_append_cons_iff (noneInside inside)).1 isIn
    · exact .inl ⟨content, inside, inFront⟩
    · exact .inr ⟨content, inside, inBack⟩
  · rintro (⟨content, inside, inFront⟩ | ⟨content, inside, inBack⟩)
    · exact ⟨content, inside, (isInfix_append_cons_iff (noneInside inside)).2 (.inl inFront)⟩
    · exact ⟨content, inside, (isInfix_append_cons_iff (noneInside inside)).2 (.inr inBack)⟩

/-- Without an opening bracket, none follows a backslash. -/
theorem not_hasSlashedBracket_of_notMem (noOpening : opening ∉ text) :
    ¬ HasSlashedBracket text :=
  fun bracket => noOpening (bracket.subset (by simp))

/-- A single colon is no code. -/
theorem not_hasCode_of_count (single : text.count colon ≤ 1) : ¬ HasCode text := by
  rintro ⟨content, -, isIn⟩
  have least := isIn.sublist.count_le colon
  rw [List.count_cons_self, List.count_append, List.count_singleton_self] at least
  omega

end Console

/-! ## Plain text -/

namespace Text

/-- Text that is literal wherever it stands. -/
def IsPlain (text : Text) : Prop :=
  ∀ point ∈ text, 32 ≤ point.val ∧ point ≠ opening ∧ point ≠ backslash ∧ point ≠ colon

instance (text : Text) : Decidable text.IsPlain :=
  List.decidableBAll _ text

namespace IsPlain

variable {text more : Text} (plain : text.IsPlain)

include plain

theorem opening_notMem : opening ∉ text :=
  fun isIn => (plain _ isIn).2.1 rfl

theorem backslash_notMem : backslash ∉ text :=
  fun isIn => (plain _ isIn).2.2.1 rfl

theorem colon_notMem : colon ∉ text :=
  fun isIn => (plain _ isIn).2.2.2 rfl

theorem isControl_eq_false : ∀ point ∈ text, point.isControl = false := by
  intro point isIn
  have le := (plain point isIn).1
  rw [isControl, Bool.and_eq_false_imp]
  simp only [decide_eq_true_eq, decide_eq_false_iff_not]
  omega

theorem append (plainToo : more.IsPlain) : (text ++ more).IsPlain :=
  List.forall_mem_append.2 ⟨plain, plainToo⟩

/-- Plain text is literal, whatever comes after it. -/
theorem isLiteral (back : Text) : Console.IsLiteral text back where
  noTag := Console.not_startsTag_of_notMem plain.opening_notMem
  noBracket := Console.not_hasSlashedBracket_of_notMem plain.opening_notMem
  noCode := Console.not_hasCode_of_count (by
    rw [List.count_eq_zero.2 plain.colon_notMem]
    exact Nat.zero_le 1)
  noControl := plain.isControl_eq_false

end IsPlain

end Text

namespace Console

/-- Between blanks, and in front of a plain word, literal text stays literal. -/
theorem IsLiteral.between
    {front word back : Text}
    (literal : IsLiteral front (blank :: (word ++ back)))
    (plain : word.IsPlain) :
    IsLiteral (blank :: (front ++ blank :: word)) back where
  noTag := by
    have noneInWord : opening ∉ blank :: word := by
      rw [List.mem_cons, not_or]
      exact ⟨by decide, plain.opening_notMem⟩
    rw [startsTag_cons, if_neg (by decide), startsTag_append, List.cons_append, not_or, not_or]
    exact ⟨fun starts => absurd starts.1 (by decide), literal.noTag,
      not_startsTag_of_notMem noneInWord⟩
  noBracket := by
    have noneInNil : ¬ HasSlashedBracket [] := not_hasSlashedBracket_of_notMem List.not_mem_nil
    have parts : blank :: (front ++ blank :: word) = [] ++ blank :: (front ++ blank :: word) := rfl
    rw [parts, hasSlashedBracket_append_blank, hasSlashedBracket_append_blank, not_or, not_or]
    exact ⟨noneInNil, literal.noBracket, (plain.isLiteral []).noBracket⟩
  noCode := by
    have noneInNil : ¬ HasCode [] := not_hasCode_of_count (Nat.zero_le 1)
    have parts : blank :: (front ++ blank :: word) = [] ++ blank :: (front ++ blank :: word) := rfl
    rw [parts, hasCode_append_blank, hasCode_append_blank, not_or, not_or]
    exact ⟨noneInNil, literal.noCode, (plain.isLiteral []).noCode⟩
  noControl := by
    have noneInBlank : blank.isControl = false := by decide
    rw [List.forall_mem_cons, List.forall_mem_append, List.forall_mem_cons]
    exact ⟨noneInBlank, literal.noControl, noneInBlank, plain.isControl_eq_false⟩

end Console
end ComponentOutline
