import Std.Data.ExtTreeMap
import AssignmentGrid.Week.Axis
import AssignmentGrid.Decimal.Layout
import AssignmentGrid.Json.Record

/-!
# Hours

The hours of a row are given week by week; a week without an entry counts as zero. Hours that are
typed or sent for a cell are brought into the bounds of a cell first: never negative, never more
than the cap, and zero when they are no number at all. Specification
`SPEC_FULL.md:61–65,113–114,123–125`.
-/

namespace AssignmentGrid

/-- Hours by week. -/
abbrev Hours := Std.ExtTreeMap WeekKey Float

namespace Hours

/-- The hours in a week, the usual cap of a cell. Specification `SPEC_FULL.md:64–65`. -/
def weekCap : Float := 168

/-- The hours of a week. -/
def amount (h : Hours) (week : WeekKey) : Float := (h[week]?).getD 0

/-- The hours with the entry of one week replaced, or taken out. -/
def put (h : Hours) (week : WeekKey) : Option Float → Hours
  | some value => h.insert week value
  | none => h.erase week

/-- The hours with one value in all of the given weeks. -/
def fill (h : Hours) (weeks : List WeekKey) (value : Float) : Hours :=
  weeks.foldl (fun h week => h.insert week value) h

/-- A number brought into the bounds of a cell. Operation `clamp_hours`, specification
`SPEC_FULL.md:64–65,113–114`. -/
def clamp (cap value : Float) : Float :=
  if !value.isFinite || value < 0 then 0
  else if cap < value then cap else value

/-- Typed hours brought into the bounds of a cell; a text that is no number stands for zero.
Specification `sanitize_hours`, `SPEC_FULL.md:113–114`. -/
def ofTyped (cap : Float) (raw : String) : Float :=
  clamp cap ((Decimal.readFloat (Text.trim raw.toList)).getD 0)

/-- Hours are shown with all their digits in place and without a fraction when they are whole; of
two equally near forms the greater one is taken. -/
def layout : Decimal.Layout where
  tie := .up
  positional := fun _ => true
  keepFraction := false
  plusSign := false

/-- The whole part of hours without their sign, as far as it fits 64 bits. -/
def wholePart (value : Float) : Nat := value.abs.toUInt64.toNat

/-- Whether hours are shown as an integer. -/
def isWhole (value : Float) : Bool :=
  Float.ofNat (wholePart value) == value.abs && value.abs < 1e15

/-- The text of hours. Specification `format_hours`, `SPEC_FULL.md:123–125`. -/
def text (value : Float) : List Char :=
  if isWhole value then
    Decimal.intChars (if value < 0 then -(wholePart value : Int) else wholePart value)
  else layout.render value

/-- A character with which typing hours may begin. Operation `is_entry_char`, specification
`SPEC_FULL.md:120–122`. -/
def isEntry (c : Char) : Bool := c.isDigit || c == '.'

/-- Hours as a JSON object from week to number. -/
def toJson (h : Hours) : Json :=
  .object (h.toList.map fun e => (e.1.text, Json.ofFloat e.2))

/-- Hours from a JSON object. -/
def ofJson (j : Json) : Json.Decoded Hours := do
  let entries ← j.toEntries (fun name => .ok (WeekKey.mk name)) Json.toFloat
  return .ofList entries

/-- A week without an entry has no hours. -/
@[simp] theorem amount_empty (week : WeekKey) : amount ∅ week = 0 := by
  simp [amount]

/-- Filling with nothing changes nothing. -/
@[simp] theorem fill_nil (h : Hours) (value : Float) : h.fill [] value = h := rfl

/-- Exactly the filled weeks take the value. -/
theorem getElem?_fill (h : Hours) (weeks : List WeekKey) (value : Float) (week : WeekKey) :
    (h.fill weeks value)[week]? = if week ∈ weeks then some value else h[week]? := by
  induction weeks generalizing h with
  | nil => simp
  | cons first rest ih =>
    have hstep : h.fill (first :: rest) value = Hours.fill (h.insert first value) rest value := rfl
    rw [hstep, ih, Std.ExtTreeMap.getElem?_insert]
    by_cases hw : week ∈ rest
    · simp [hw]
    · by_cases hf : first = week
      · simp [hf]
      · have hf' : week ≠ first := fun h => hf h.symm
        simp [hw, hf, hf']

end Hours

end AssignmentGrid
