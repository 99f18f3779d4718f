import AssignmentGrid.Calendar.Date

/-!
# Week keys

A week is named by a text, as a rule the date of its Monday. Keys are told apart and ordered as
texts, code point by code point; only the column label looks at the date. Specification `WeekKey`,
`SPEC_FULL.md:53–57`.
-/

namespace AssignmentGrid

/-- The name of a week. Specification `WeekKey`, `SPEC_FULL.md:53–55`. -/
structure WeekKey where
  text : String
  deriving DecidableEq, Repr

namespace WeekKey

/-- Keys are ordered as their texts. -/
instance : Ord WeekKey := ⟨fun a b => compare a.text b.text⟩

/-- The order of texts is transitive, hence that of keys. -/
instance : Std.TransOrd WeekKey where
  eq_swap {a b} := @Std.OrientedCmp.eq_swap String compare _ a.text b.text
  isLE_trans {a b c} := @Std.TransCmp.isLE_trans String compare _ a.text b.text c.text

/-- Keys that compare equal are equal. -/
instance : Std.LawfulEqOrd WeekKey where
  compare_self {a} := @Std.ReflCmp.compare_self String compare _ a.text
  eq_of_compare {a b} h := by
    have ht : a.text = b.text := @Std.LawfulEqCmp.eq_of_compare String compare _ a.text b.text h
    cases a; cases b; simpa using ht

/-- The date that the key denotes, if it is one. -/
def date (k : WeekKey) : Option Calendar.Date := Calendar.Date.read k.text.toList

/-- The label of the week's column: month and day of a date, any other key as it is. Specification
`label`, `SPEC_FULL.md:56–57`. -/
def label (k : WeekKey) : List Char :=
  match k.date with
  | some d => d.label
  | none => k.text.toList

end WeekKey

end AssignmentGrid
