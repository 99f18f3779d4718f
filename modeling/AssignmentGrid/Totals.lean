import AssignmentGrid.Assignment

/-!
# Totals

The hours of a person in a week over all rows. Totals are delivered with a snapshot; pairs that were
not delivered are derived from the rows, and a pair is computed anew after a write to one of its
cells. Specification `AggregateTotals`, `SPEC_FULL.md:76–78`.
-/

namespace AssignmentGrid

/-- The hours of a week, summed over rows from the first on. The sum starts from negative zero,
which changes no number it is added to, not even itself. Operation `sum_week`, specification
`SPEC_FULL.md:131–132`. -/
def weekSum (rows : List Assignment) (week : WeekKey) : Float :=
  rows.foldl (fun sum a => sum + a.hours.amount week) (-0.0)

/-- Hours by person and week. Specification `AggregateTotals`, `SPEC_FULL.md:76`. -/
structure Totals where
  byPerson : Std.ExtTreeMap PersonId Hours

namespace Totals

/-- No totals at all. -/
def empty : Totals := ⟨∅⟩

/-- The stored hours of a person, if there are any. -/
def person? (t : Totals) (p : PersonId) : Option Hours := t.byPerson[p]?

/-- The stored total of a pair. -/
def get? (t : Totals) (p : PersonId) (week : WeekKey) : Option Float :=
  (t.person? p).bind fun h => h[week]?

/-- The total of a pair; an absent one counts as zero. Specification `SPEC_FULL.md:77–78`. -/
def get (t : Totals) (p : PersonId) (week : WeekKey) : Float := (t.get? p week).getD 0

/-- Whether a pair has a total. -/
def contains (t : Totals) (p : PersonId) (week : WeekKey) : Bool := (t.get? p week).isSome

/-- Store the total of a pair. -/
def set (t : Totals) (p : PersonId) (week : WeekKey) (value : Float) : Totals :=
  ⟨t.byPerson.insert p (((t.person? p).getD ∅).insert week value)⟩

/-- Forget all totals of a person. -/
def erasePerson (t : Totals) (p : PersonId) : Totals := ⟨t.byPerson.erase p⟩

/-- The people with totals, in ascending order. -/
def people (t : Totals) : List PersonId := t.byPerson.keys

/-- Overwrite one pair with the sum of rows. Operation `recompute`, specification
`SPEC_FULL.md:131–132`. -/
def recompute (t : Totals) (p : PersonId) (rows : List Assignment) (week : WeekKey) : Totals :=
  t.set p week (weekSum rows week)

/-- Overwrite the pairs of some weeks with the sums of rows. -/
def recomputeAll (t : Totals) (p : PersonId) (rows : List Assignment) (weeks : List WeekKey) :
    Totals :=
  weeks.foldl (fun t week => t.recompute p rows week) t

/-- Fill the pairs of some weeks that have no total with the sums of rows. Operation
`derive_missing`, specification `SPEC_FULL.md:76–78`. -/
def deriveMissing (t : Totals) (p : PersonId) (rows : List Assignment) (weeks : List WeekKey) :
    Totals :=
  weeks.foldl (fun t week => if t.contains p week then t else t.recompute p rows week) t

/-- Totals as a JSON object from person to hours. -/
def toJson (t : Totals) : Json :=
  .object (t.byPerson.toList.map fun e => (Decimal.intText e.1.toInt, e.2.toJson))

/-- Totals from a JSON object. -/
def ofJson (j : Json) : Json.Decoded Totals := do
  let entries ← j.toEntries Json.int64OfKey Hours.ofJson
  return ⟨.ofList entries⟩

/-- Storing a pair changes that pair and no other. -/
theorem get?_set (t : Totals) (p q : PersonId) (week other : WeekKey) (value : Float) :
    (t.set p week value).get? q other =
      if p = q ∧ week = other then some value else t.get? q other := by
  by_cases hp : p = q
  · subst hp
    by_cases hw : week = other
    · subst hw
      simp [set, get?, person?]
    · have hc : ¬ compare week other = .eq := fun h => hw (Std.LawfulEqOrd.eq_of_compare h)
      cases h : t.byPerson[p]? <;>
        simp [set, get?, person?, h, hw, hc, Std.ExtTreeMap.getElem?_insert]
  · have hc : ¬ compare p q = .eq := fun h => hp (Std.LawfulEqOrd.eq_of_compare h)
    simp [set, get?, person?, hp, hc, Std.ExtTreeMap.getElem?_insert]

end Totals

end AssignmentGrid
