import AssignmentGrid.Proofs.RecountedTotals
import AssignmentGrid.Proofs.WriteEnd

/-!
# Totals after a refused write

When a write is refused, the rows get their hours back from what was remembered of them. Totals are
not remembered: those that the write touches are counted anew from the held rows. So a total comes
back exactly if it was the sum of the held rows before, and a total of the backend that was not is
lost. Specification `SPEC_FULL.md:131–132,135`.
-/

namespace AssignmentGrid

variable {σ : Type}

/-- Whether a write to cells touches a pair: it names a cell of the week in a row that is held for
the person. -/
def Sheet.Touches (s : Sheet) (cells : List Cell) (p : PersonId) (week : WeekKey) : Prop :=
  ∃ id, (⟨⟨p, id⟩, week⟩ : Cell) ∈ cells ∧ (s.roster.find? ⟨p, id⟩).isSome = true

theorem Grid.roster_applyHours_of_refused (g : Grid) (b : Backend σ) (cells : List Cell)
    (value : Float) (s : σ) (hrefused : (g.applyHours b cells value s).result.committed = []) :
    (g.applyHours b cells value s).grid.roster = g.roster := by
  rw [result_applyHours] at hrefused
  have hsheet := congrArg Prod.fst (g.applyHours_eq_write b cells value s)
  exact (congrArg Sheet.roster hsheet).trans
    (g.sheet.roster_write_of_refused cells _ b s hrefused)

/-- A write of which the backend takes no row leaves all rows as they were. A pair that it does not
touch keeps its total, and the total of a pair that it touches becomes the sum of the held rows. So
a total is what it was exactly if the write does not touch it or it was this sum. -/
theorem totals_after_refused_write (g : Grid) (b : Backend σ) (cells : List Cell) (value : Float)
    (s : σ) (hrefused : (g.applyHours b cells value s).result.committed = []) :
    let later := (g.applyHours b cells value s).grid
    later.roster = g.roster ∧
      ∀ p week,
        (¬ g.sheet.Touches cells p week → later.total p week = g.total p week) ∧
        (g.sheet.Touches cells p week →
          later.total p week = weekSum (g.roster.rowsFor p) week) ∧
        (SameNumber (later.total p week) (g.total p week) ↔
          (g.sheet.Touches cells p week → g.sheet.IsExact p week)) := by
  intro later
  have hroster : later.roster = g.roster := g.roster_applyHours_of_refused b cells value s hrefused
  refine ⟨hroster, fun p week ↦ ?_⟩
  have hrecount : g.sheet.Recount later.sheet p week (g.sheet.Touches cells p week) False :=
    (RowChange.apply cells value).recount b g s p week
  have hkept (hout : ¬ g.sheet.Touches cells p week) : later.total p week = g.total p week :=
    congrArg (Option.getD · 0) (hrecount.kept hout)
  have hcounted (hin : g.sheet.Touches cells p week) :
      later.total p week = weekSum (g.roster.rowsFor p) week := by
    rw [← hroster]
    exact congrArg (Option.getD · 0) (hrecount.counted hin)
  refine ⟨hkept, hcounted, ?_⟩
  by_cases htouched : g.sheet.Touches cells p week
  · rw [hcounted htouched]
    exact ⟨fun hsame _ ↦ hsame.symm, fun hexact ↦ (hexact htouched).symm⟩
  · rw [hkept htouched]
    exact ⟨fun _ hin ↦ absurd hin htouched, fun _ ↦ SameNumber.refl _⟩

/-- Two rows of one person are written and both are locked. The total of the week was the sum of
the two, and so it is what it was. -/
theorem totals_after_locked_rows :
    let week : WeekKey := ⟨"2024-01-01"⟩
    let script : Script :=
      { standing? := some
          { weeks := [week]
            people := [⟨7, "Ada Park"⟩]
            rows :=
              [{ id := 42, person := 7, project := 1, hours := (∅ : Hours).insert week 8 },
                { id := 43, person := 7, project := 2 }] }
        locked := [42, 43] }
    let start := (({} : Grid).load Script.backend {} script).state
    let cells : List Cell := [⟨⟨7, 42⟩, week⟩, ⟨⟨7, 43⟩, week⟩]
    let reply := start.1.applyHours Script.backend cells 10 start.2
    reply.result.failed.length = 2 ∧ reply.grid.roster = start.1.roster ∧
      start.1.sheet.Touches cells 7 week ∧
      SameNumber (reply.grid.total 7 week) (start.1.total 7 week) := by
  intro week script start cells reply
  have hrefused : reply.result.committed = [] := by decide +kernel
  obtain ⟨hroster, htotals⟩ :=
    totals_after_refused_write start.1 Script.backend cells 10 start.2 hrefused
  have hexact : start.1.sheet.IsExact 7 week := .inl (by decide +kernel)
  have htouched : start.1.sheet.Touches cells 7 week :=
    ⟨42, List.mem_cons_self, by decide +kernel⟩
  exact ⟨by decide +kernel, hroster, htouched, (htotals 7 week).2.2.mpr fun _ ↦ hexact⟩

/-- The only row of a write is locked, and the forty hours that the backend gave for the week become
the eight of the held row. -/
theorem supplied_total_lost :
    let week : WeekKey := ⟨"2024-01-01"⟩
    let script : Script :=
      { standing? := some
          { weeks := [week]
            people := [⟨7, "Ada Park"⟩]
            rows :=
              [{ id := 42, person := 7, project := 1, hours := (∅ : Hours).insert week 8 }]
            totals := Totals.empty.set 7 week 40 }
        locked := [42] }
    let start := Action.run Script.backend [.operation (.load {})] ({}, script)
    let reply := start.1.applyHours Script.backend [⟨⟨7, 42⟩, week⟩] 10 start.2
    start.1.Reachable ∧ start.1.total 7 week == 40 ∧
      reply.result = ⟨[], [(⟨7, 42⟩, "assignment is locked")], []⟩ ∧
      ¬ SameNumber (reply.grid.total 7 week) (start.1.total 7 week) ∧
      reply.grid.total 7 week == 8 := by
  intro week script start reply
  have hother : ¬ (reply.grid.total 7 week == start.1.total 7 week) := by decide +kernel
  have hnumber : ¬ (reply.grid.total 7 week).isNaN := by decide +kernel
  have hlost : ¬ SameNumber (reply.grid.total 7 week) (start.1.total 7 week) :=
    fun h ↦ h.elim hother fun hnan ↦ hnumber hnan.1
  exact ⟨.run _ (.new {} Hours.weekCap) _ script, by decide +kernel, by decide +kernel, hlost,
    by decide +kernel⟩

end AssignmentGrid
