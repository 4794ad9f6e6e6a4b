import ComponentOutline.Text.CodePoint

/-!
# UTF-16 code units

A text is read as the code units of its code points, a surrogate code point
counting as its own unit.  `Text.joinSurrogates` reads these units back, so that
two halves of a pair become one character.  Joining is done for the whole text
or not at all: one lone half keeps every code point as it stands.
-/

namespace ComponentOutline

/-- A UTF-16 code unit. -/
abbrev CodeUnit := Fin 0x10000

namespace CodePoint

/-- The code units of a code point: a pair beyond the basic plane, else one. -/
def units (point : CodePoint) : List CodeUnit :=
  if basic : point.val < 0x10000 then
    [⟨point.val, basic⟩]
  else
    [⟨0xD800 + (point.val - 0x10000) / 0x400, by
        have bound := point.isLt
        omega⟩,
      ⟨0xDC00 + (point.val - 0x10000) % 0x400, by omega⟩]

end CodePoint

namespace CodeUnit

/-- The code point that a single unit stands for. -/
def toPoint (unit : CodeUnit) : CodePoint :=
  ⟨unit.val, by have bound := unit.isLt; omega⟩

/-- The code point that a high and a low surrogate stand for together. -/
def pair? (high low : CodeUnit) : Option CodePoint :=
  if both : (0xD800 ≤ high.val ∧ high.val < 0xDC00) ∧
      (0xDC00 ≤ low.val ∧ low.val < 0xE000) then
    some ⟨0x10000 + (high.val - 0xD800) * 0x400 + (low.val - 0xDC00), by omega⟩
  else
    none

end CodeUnit

namespace Text

/-- The code units of a text. -/
def units (text : Text) : List CodeUnit :=
  text.flatMap CodePoint.units

/-- The surrogate-free text that has exactly these units, if they are well formed. -/
def ofUnits? : List CodeUnit → Option Text
  | [] => some []
  | [unit] => if unit.toPoint.isSurrogate then none else some [unit.toPoint]
  | first :: second :: rest =>
      if first.toPoint.isSurrogate then
        match CodeUnit.pair? first second with
        | some point => (ofUnits? rest).map (point :: ·)
        | none => none
      else
        (ofUnits? (second :: rest)).map (first.toPoint :: ·)

/-- Joins every surrogate pair, provided that no half stands alone. -/
def joinSurrogates (text : Text) : Text :=
  (ofUnits? text.units).getD text

end Text
end ComponentOutline
