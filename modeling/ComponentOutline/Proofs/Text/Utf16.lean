import ComponentOutline.Text.Utf16

/-!
# Well-formed code units

Code units are well formed if their surrogates stand in pairs of a high and a low one.  These
are the units of the texts without surrogates, each of one such text only: reading the units
back gives it.  Joining the surrogates of a text therefore keeps its units; it leaves no
surrogate if the units are well formed, and changes nothing otherwise.
-/

namespace ComponentOutline

/-! ## Units and pairs -/

namespace CodeUnit

/-- The first half of a pair. -/
def IsHigh (unit : CodeUnit) : Prop :=
  0xD800 ≤ unit.val ∧ unit.val < 0xDC00

/-- The second half of a pair. -/
def IsLow (unit : CodeUnit) : Prop :=
  0xDC00 ≤ unit.val ∧ unit.val < 0xE000

/-- The code point of a unit is a surrogate exactly if the unit is half of a pair. -/
theorem isSurrogate_toPoint_iff {unit : CodeUnit} :
    unit.toPoint.isSurrogate = true ↔ unit.IsHigh ∨ unit.IsLow := by
  unfold IsHigh IsLow
  rw [CodePoint.isSurrogate, Bool.and_eq_true, decide_eq_true_eq, decide_eq_true_eq]
  change 0xD800 ≤ unit.val ∧ unit.val < 0xE000 ↔ _
  omega

/-- A unit is the only one of the code point that it stands for. -/
theorem units_toPoint (unit : CodeUnit) : unit.toPoint.units = [unit] :=
  dif_pos unit.isLt

/-- A high and a low unit stand for a character beyond the basic plane. -/
theorem pair?_eq_some_iff {high low : CodeUnit} {point : CodePoint} :
    CodeUnit.pair? high low = some point ↔
      high.IsHigh ∧ low.IsLow ∧
        point.val = 0x10000 + (high.val - 0xD800) * 0x400 + (low.val - 0xDC00) := by
  unfold pair? IsHigh IsLow
  constructor
  · intro joined
    split at joined
    · next both =>
        obtain rfl := Option.some.inj joined
        exact ⟨both.1, both.2, rfl⟩
    · cases joined
  · rintro ⟨isHigh, isLow, value⟩
    rw [dif_pos ⟨isHigh, isLow⟩]
    exact congrArg some (Fin.ext value.symm)

/-- The units of a joined pair are its halves. -/
theorem units_of_pair?
    {high low : CodeUnit}
    {point : CodePoint}
    (joined : CodeUnit.pair? high low = some point) :
    point.units = [high, low] ∧ point.isSurrogate = false := by
  obtain ⟨isHigh, isLow, value⟩ := pair?_eq_some_iff.mp joined
  unfold IsHigh at isHigh
  unfold IsLow at isLow
  constructor
  · have astral : ¬ point.val < 0x10000 := by omega
    have first : 0xD800 + (point.val - 0x10000) / 0x400 = high.val := by omega
    have second : 0xDC00 + (point.val - 0x10000) % 0x400 = low.val := by omega
    rw [CodePoint.units, dif_neg astral]
    simp only [List.cons.injEq, Fin.ext_iff, and_true]
    exact ⟨first, second⟩
  · rw [Bool.eq_false_iff, CodePoint.isSurrogate, ne_eq, Bool.and_eq_true, decide_eq_true_eq,
      decide_eq_true_eq]
    omega

end CodeUnit

/-- A code point that is no surrogate has a unit that is no half, or a pair of units that
stand for it together. -/
theorem CodePoint.units_cases
    {point : CodePoint}
    (free : point.isSurrogate = false) :
    (∃ unit : CodeUnit,
      point.units = [unit] ∧ ¬ unit.IsHigh ∧ ¬ unit.IsLow ∧ unit.toPoint = point) ∨
      ∃ high low : CodeUnit, point.units = [high, low] ∧ CodeUnit.pair? high low = some point := by
  unfold units
  split
  · next basic =>
      obtain ⟨unit, isUnit⟩ : ∃ unit : CodeUnit, unit = ⟨point.val, basic⟩ := ⟨_, rfl⟩
      have stands : unit.toPoint = point := by
        rw [isUnit]
        rfl
      have noHalf := Bool.eq_false_iff.mp free
      rw [← stands, ne_eq, CodeUnit.isSurrogate_toPoint_iff, not_or] at noHalf
      rw [← isUnit]
      exact .inl ⟨unit, rfl, noHalf.1, noHalf.2, stands⟩
  · next astral =>
      refine .inr ⟨_, _, rfl, ?_⟩
      rw [CodeUnit.pair?_eq_some_iff]
      have bound := point.isLt
      unfold CodeUnit.IsHigh CodeUnit.IsLow
      simp only
      omega

/-! ## Well-formed units -/

/-- Every high unit is followed by a low one, and no low unit stands elsewhere. -/
inductive IsWellFormed : List CodeUnit → Prop
  | nil : IsWellFormed []
  | single {unit : CodeUnit} {rest : List CodeUnit}
      (notHigh : ¬ unit.IsHigh)
      (notLow : ¬ unit.IsLow)
      (more : IsWellFormed rest) :
      IsWellFormed (unit :: rest)
  | pair {high low : CodeUnit} {rest : List CodeUnit}
      (isHigh : high.IsHigh)
      (isLow : low.IsLow)
      (more : IsWellFormed rest) :
      IsWellFormed (high :: low :: rest)

namespace Text

/-- No code point of a text is a surrogate. -/
def IsFree (text : Text) : Prop :=
  ∀ point ∈ text, point.isSurrogate = false

theorem units_cons (point : CodePoint) (rest : Text) :
    units (point :: rest) = point.units ++ units rest :=
  List.flatMap_cons

theorem units_append (front back : Text) :
    units (front ++ back) = units front ++ units back :=
  List.flatMap_append

theorem units_flatten (parts : List Text) :
    units parts.flatten = parts.flatMap units := by
  induction parts with
  | nil => rfl
  | cons part rest inductionHypothesis =>
      rw [List.flatten_cons, units_append, inductionHypothesis, List.flatMap_cons]

/-- No string has surrogates. -/
theorem isFree_ofString (string : String) : (ofString string).IsFree := by
  intro point isMember
  obtain ⟨character, -, rfl⟩ := List.mem_map.mp isMember
  exact CodePoint.isSurrogate_ofChar character

/-- The units of a text without surrogates are well formed. -/
theorem isWellFormed_units {text : Text} (free : text.IsFree) : IsWellFormed text.units := by
  induction text with
  | nil => exact .nil
  | cons point rest inductionHypothesis =>
      obtain ⟨here, others⟩ := List.forall_mem_cons.mp free
      have more := inductionHypothesis others
      rw [units_cons]
      obtain ⟨unit, encoded, notHigh, notLow, -⟩ | ⟨high, low, encoded, joined⟩ :=
        CodePoint.units_cases here
      · rw [encoded]
        exact .single notHigh notLow more
      · obtain ⟨isHigh, isLow, -⟩ := CodeUnit.pair?_eq_some_iff.mp joined
        rw [encoded]
        exact .pair isHigh isLow more

theorem ofUnits?_single
    {unit : CodeUnit}
    (notHigh : ¬ unit.IsHigh)
    (notLow : ¬ unit.IsLow)
    (rest : List CodeUnit) :
    ofUnits? (unit :: rest) = (ofUnits? rest).map (unit.toPoint :: ·) := by
  have free : ¬ unit.toPoint.isSurrogate = true := by
    rw [CodeUnit.isSurrogate_toPoint_iff, not_or]
    exact ⟨notHigh, notLow⟩
  cases rest with
  | nil => exact if_neg free
  | cons second others => rw [ofUnits?, if_neg free]

theorem ofUnits?_pair
    {high low : CodeUnit}
    {point : CodePoint}
    (joined : CodeUnit.pair? high low = some point)
    (rest : List CodeUnit) :
    ofUnits? (high :: low :: rest) = (ofUnits? rest).map (point :: ·) := by
  obtain ⟨isHigh, -, -⟩ := CodeUnit.pair?_eq_some_iff.mp joined
  rw [ofUnits?, if_pos (CodeUnit.isSurrogate_toPoint_iff.mpr (.inl isHigh)), joined]

/-- A text without surrogates is read back from its units. -/
theorem ofUnits?_units {text : Text} (free : text.IsFree) : ofUnits? text.units = some text := by
  induction text with
  | nil => rfl
  | cons point rest inductionHypothesis =>
      obtain ⟨here, others⟩ := List.forall_mem_cons.mp free
      rw [units_cons]
      obtain ⟨unit, encoded, notHigh, notLow, stands⟩ | ⟨high, low, encoded, joined⟩ :=
        CodePoint.units_cases here
      · rw [encoded, List.singleton_append, ofUnits?_single notHigh notLow,
          inductionHypothesis others, stands]
        rfl
      · rw [encoded, List.cons_append, List.singleton_append, ofUnits?_pair joined,
          inductionHypothesis others]
        rfl

/-- Well-formed units are those of a text without surrogates. -/
theorem exists_units_eq
    {units : List CodeUnit}
    (wellFormed : IsWellFormed units) :
    ∃ text : Text, text.IsFree ∧ text.units = units := by
  induction wellFormed with
  | nil => exact ⟨[], nofun, rfl⟩
  | @single unit rest notHigh notLow more inductionHypothesis =>
      obtain ⟨text, free, rfl⟩ := inductionHypothesis
      refine ⟨unit.toPoint :: text, ?_, ?_⟩
      · refine List.forall_mem_cons.mpr ⟨?_, free⟩
        rw [Bool.eq_false_iff, ne_eq, CodeUnit.isSurrogate_toPoint_iff, not_or]
        exact ⟨notHigh, notLow⟩
      · rw [units_cons, CodeUnit.units_toPoint]
        rfl
  | @pair high low rest isHigh isLow more inductionHypothesis =>
      obtain ⟨text, free, rfl⟩ := inductionHypothesis
      obtain ⟨point, joined⟩ : ∃ point, CodeUnit.pair? high low = some point :=
        ⟨_, dif_pos ⟨isHigh, isLow⟩⟩
      obtain ⟨unitsEq, noSurrogate⟩ := CodeUnit.units_of_pair? joined
      refine ⟨point :: text, List.forall_mem_cons.mpr ⟨noSurrogate, free⟩, ?_⟩
      rw [units_cons, unitsEq]
      rfl

/-- Units that are not well formed are not read back. -/
theorem isWellFormed_of_ofUnits?
    {units : List CodeUnit}
    {text : Text}
    (read : ofUnits? units = some text) :
    IsWellFormed units := by
  fun_induction ofUnits? units generalizing text with
  | case1 => exact .nil
  | case2 unit surrogate => cases read
  | case3 unit noSurrogate =>
      rw [CodeUnit.isSurrogate_toPoint_iff, not_or] at noSurrogate
      exact .single noSurrogate.1 noSurrogate.2 .nil
  | case4 first second rest surrogate point joined inductionHypothesis =>
      obtain ⟨isHigh, isLow, -⟩ := CodeUnit.pair?_eq_some_iff.mp joined
      obtain ⟨others, readOthers, -⟩ := Option.map_eq_some_iff.mp read
      exact .pair isHigh isLow (inductionHypothesis readOthers)
  | case5 first second rest surrogate unjoined => cases read
  | case6 first second rest noSurrogate inductionHypothesis =>
      rw [CodeUnit.isSurrogate_toPoint_iff, not_or] at noSurrogate
      obtain ⟨others, readOthers, -⟩ := Option.map_eq_some_iff.mp read
      exact .single noSurrogate.1 noSurrogate.2 (inductionHypothesis readOthers)

/-! ## Joining -/

/-- A text with the units of one without surrogates is joined to it. -/
theorem joinSurrogates_eq
    {text joined : Text}
    (free : joined.IsFree)
    (sameUnits : text.units = joined.units) :
    text.joinSurrogates = joined := by
  rw [joinSurrogates, sameUnits, ofUnits?_units free, Option.getD_some]

/-- Where one half is alone, no pair is joined. -/
theorem joinSurrogates_of_not_isWellFormed
    {text : Text}
    (illFormed : ¬ IsWellFormed text.units) :
    text.joinSurrogates = text := by
  unfold joinSurrogates
  cases read : ofUnits? text.units with
  | none => rfl
  | some joined => exact absurd (isWellFormed_of_ofUnits? read) illFormed

/-- Joining keeps the units, and it leaves no surrogate exactly if they are well formed. -/
theorem units_joinSurrogates (text : Text) :
    text.joinSurrogates.units = text.units ∧
      (text.joinSurrogates.IsFree ↔ IsWellFormed text.units) := by
  by_cases wellFormed : IsWellFormed text.units
  · obtain ⟨joined, free, sameUnits⟩ := exists_units_eq wellFormed
    rw [joinSurrogates_eq free sameUnits.symm]
    exact ⟨sameUnits, iff_of_true free wellFormed⟩
  · rw [joinSurrogates_of_not_isWellFormed wellFormed]
    exact ⟨rfl, iff_of_false (fun free => wellFormed (isWellFormed_units free)) wellFormed⟩

/-- Behind given units and in front of others, a text has the character of a high and a low
unit. -/
def Joins (text : Text) (front : List CodeUnit) (high low : CodeUnit) (back : List CodeUnit) :
    Prop :=
  ∃ (before after : Text) (point : CodePoint),
    text = before ++ point :: after ∧ before.units = front ∧ after.units = back ∧
      point.val = 0x10000 + (high.val - 0xD800) * 0x400 + (low.val - 0xDC00)

theorem Joins.cons
    {text : Text}
    {front back : List CodeUnit}
    {high low : CodeUnit}
    (joins : text.Joins front high low back)
    (point : CodePoint) :
    Joins (point :: text) (point.units ++ front) high low back := by
  obtain ⟨before, after, joined, rfl, rfl, isBack, value⟩ := joins
  exact ⟨point :: before, after, joined, rfl, units_cons point before, isBack, value⟩

/-- In a text without surrogates, a high unit and the low one behind it belong to one
character. -/
theorem joins_of_units_eq
    {text : Text}
    (free : text.IsFree)
    {front back : List CodeUnit}
    {high low : CodeUnit}
    (divided : text.units = front ++ high :: low :: back)
    (isHigh : high.IsHigh) :
    text.Joins front high low back := by
  induction text generalizing front with
  | nil => simp [units] at divided
  | cons point rest inductionHypothesis =>
      obtain ⟨here, freeRest⟩ := List.forall_mem_cons.mp free
      rw [units_cons] at divided
      obtain ⟨unit, encoded, notHigh, -, -⟩ | ⟨first, second, encoded, isJoined⟩ :=
        CodePoint.units_cases here
      · rw [encoded, List.singleton_append] at divided
        cases front with
        | nil =>
            obtain ⟨rfl, -⟩ := List.cons.inj divided
            exact absurd isHigh notHigh
        | cons next others =>
            obtain ⟨rfl, dividedRest⟩ := List.cons.inj divided
            have joins := (inductionHypothesis freeRest dividedRest).cons point
            rwa [encoded] at joins
      · obtain ⟨-, secondIsLow, value⟩ := CodeUnit.pair?_eq_some_iff.mp isJoined
        rw [encoded, List.cons_append, List.singleton_append] at divided
        -- the high unit belongs to the first pair, or stands behind it
        cases front with
        | nil =>
            simp only [List.nil_append, List.cons.injEq] at divided
            obtain ⟨rfl, rfl, isBack⟩ := divided
            exact ⟨[], rest, point, rfl, rfl, isBack, value⟩
        | cons next others =>
            cases others with
            | nil =>
                simp only [List.cons_append, List.nil_append, List.cons.injEq] at divided
                obtain ⟨-, rfl, -⟩ := divided
                unfold CodeUnit.IsHigh at isHigh
                unfold CodeUnit.IsLow at secondIsLow
                omega
            | cons following others =>
                simp only [List.cons_append, List.cons.injEq] at divided
                obtain ⟨rfl, rfl, dividedRest⟩ := divided
                have joins := (inductionHypothesis freeRest dividedRest).cons point
                rwa [encoded] at joins

end Text
end ComponentOutline
