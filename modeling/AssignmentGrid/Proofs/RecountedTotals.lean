import AssignmentGrid.Proofs.Reachable
import AssignmentGrid.Proofs.RosterFiling
import AssignmentGrid.Proofs.RosterStep
import AssignmentGrid.Proofs.WriteOutcome

/-!
# Totals of people whose rows are not loaded

While the rows of a person are not loaded, the totals that came with the snapshot stand for rows
that are not held. Creating a row, writing its hours and taking it away count some pairs anew, and
they count the held rows only. What the snapshot said about these pairs is forgotten then; all other
pairs keep it. Specification `SPEC_FULL.md:76–78,131–132`.
-/

namespace AssignmentGrid

/-- A change of the rows that are held for people: a row is created or taken away, or a write of
hours is prepared, settled, or both. -/
inductive RowChange where
  | assign (person : PersonId) (project : ProjectId)
  | prepare (cells : List Cell) (value : Float)
  | settle (write : SentWrite)
  | apply (cells : List Cell) (value : Float)
  | unassign (id : AssignmentId)

variable {σ : Type}

namespace RowChange

/-- What is done to the grid. -/
def action : RowChange → Action
  | assign p project => .operation (.assign p project)
  | prepare cells value => .piece (.prepare cells value)
  | settle w => .piece (.settle w)
  | apply cells value => .operation (.apply cells value)
  | unassign id => .operation (.unassign id)

/-- Whether a change counts a pair anew. -/
def Recounts (b : Backend σ) (g : Grid) (s : σ) (p : PersonId) (week : WeekKey) : RowChange → Prop
  | assign q project => q = p ∧ (g.roster.person? q).isSome = true ∧
      ∃ row, (b.createRow q project s).1 = .ok row ∧ week ∈ row.hours.keys
  | prepare cells _ | apply cells _ =>
      ∃ id, (⟨⟨p, id⟩, week⟩ : Cell) ∈ cells ∧ (g.roster.find? ⟨p, id⟩).isSome = true
  | settle w => ∃ e ∈ w.settled, e.1.Touches p week
  | unassign id => g.roster.ownerOf? id = some p ∧ (b.deleteRow id s).1.isOk = true ∧
      week ∈ g.weeksTaken p id

/-- Whether a change brings a row that counts for a pair, although it was asked for somebody
else. -/
def Misfiles (b : Backend σ) (g : Grid) (s : σ) (p : PersonId) (week : WeekKey) :
    RowChange → Prop
  | assign q project => q ≠ p ∧ (g.roster.person? q).isSome = true ∧
      ∃ row, (b.createRow q project s).1 = .ok row ∧ row.person = p ∧ week ∈ row.hours.keys
  | _ => False

/-- Whether a change of a run counts a pair anew. -/
def EverRecounts (b : Backend σ) (p : PersonId) (week : WeekKey) :
    List RowChange → Grid × σ → Prop
  | [], _ => False
  | c :: rest, x => c.Recounts b x.1 x.2 p week ∨
      EverRecounts b p week rest (c.action.perform b x.1 x.2)

/-- Whether a change of a run brings a row for a pair that was asked for somebody else. -/
def EverMisfiles (b : Backend σ) (p : PersonId) (week : WeekKey) :
    List RowChange → Grid × σ → Prop
  | [], _ => False
  | c :: rest, x => c.Misfiles b x.1 x.2 p week ∨
      EverMisfiles b p week rest (c.action.perform b x.1 x.2)

end RowChange

/-! ### One change -/

namespace Sheet

/-- What becomes of a pair, given whether it is counted anew and whether a row comes for it that was
asked for somebody else. -/
structure Recount (s later : Sheet) (p : PersonId) (week : WeekKey) (recounts misfiles : Prop) :
    Prop where
  counted : recounts → later.totals.get? p week = some (weekSum (later.roster.rowsFor p) week)
  kept : ¬ recounts → later.totals.get? p week = s.totals.get? p week
  sum : ¬ recounts → ¬ misfiles →
    SameNumber (weekSum (later.roster.rowsFor p) week) (weekSum (s.roster.rowsFor p) week)

variable {s : Sheet} {p : PersonId} {week : WeekKey} {recounts misfiles : Prop}

namespace Recount

theorem refl (s : Sheet) (p : PersonId) (week : WeekKey) (h : ¬ recounts) :
    s.Recount s p week recounts misfiles :=
  ⟨fun hcounts ↦ absurd hcounts h, fun _ ↦ rfl, fun _ _ ↦ SameNumber.refl _⟩

/-- Two changes that count the same pairs anew make up one. -/
theorem trans {mid later : Sheet} (h : s.Recount mid p week recounts misfiles)
    (h' : mid.Recount later p week recounts misfiles) :
    s.Recount later p week recounts misfiles where
  counted := h'.counted
  kept hcounts := (h'.kept hcounts).trans (h.kept hcounts)
  sum hcounts hfiled := (h'.sum hcounts hfiled).trans (h.sum hcounts hfiled)

/-- A pair that is counted anew is exact afterwards, and an exact one stays so. -/
theorem isExact {later : Sheet} (h : s.Recount later p week recounts misfiles)
    (hfiled : ¬ misfiles) (hexact : recounts ∨ s.IsExact p week) : later.IsExact p week := by
  by_cases hcounts : recounts
  · exact isExact_of_get? (h.counted hcounts)
  · have hbefore := hexact.resolve_left hcounts
    exact hbefore.of_same (h.kept hcounts) (h.sum hcounts hfiled)

end Recount

variable (s) (p) (week)

theorem recount_prepare (cells : List Cell) (value : Float) :
    s.Recount (s.prepare cells value).2 p week
      (∃ q ∈ (s.prepare cells value).1.plans, q.Touches p week) misfiles where
  counted h := (get?_prepare s cells value p week).trans (if_pos h)
  kept h := (get?_prepare s cells value p week).trans (if_neg h)
  sum h _ := by
    rw [weekSum_prepare_of_not_touched h]
    exact SameNumber.refl _

theorem recount_settle (w : SentWrite) :
    s.Recount (w.settle s) p week (∃ e ∈ w.settled, e.1.Touches p week) misfiles where
  counted h := (w.get?_settle s p week).trans (if_pos h)
  kept h := (w.get?_settle s p week).trans (if_neg h)
  sum h _ := by
    rw [SentWrite.weekSum_settle_of_not_touched h]
    exact SameNumber.refl _

/-- A write touches the same pairs when it is prepared and when it is settled. -/
theorem recount_write (b : Backend σ) (cells : List Cell) (value : Float) (state : σ) :
    s.Recount (s.write b cells value state).1 p week
      (∃ q ∈ (s.prepare cells value).1.plans, q.Touches p week) misfiles := by
  have hsettled :
      (s.prepare cells value).2.Recount (s.write b cells value state).1 p week _ misfiles :=
    (s.prepare cells value).2.recount_settle p week ((s.prepare cells value).1.send b state).1
  rw [PreparedWrite.touched_send_iff] at hsettled
  exact (s.recount_prepare p week cells value).trans hsettled

end Sheet

namespace Grid

variable (b : Backend σ) (g : Grid) (s : σ) (p : PersonId) (week : WeekKey)

theorem recount_assign (q : PersonId) (project : ProjectId) :
    g.sheet.Recount (g.assign b q project s).grid.sheet p week
      ((RowChange.assign q project).Recounts b g s p week)
      ((RowChange.assign q project).Misfiles b g s p week) := by
  unfold Grid.assign
  split
  · next hnone => exact .refl g.sheet p week fun ⟨_, hknown, _⟩ ↦ by simp [hnone] at hknown
  · next hsome =>
    have hknown : (g.roster.person? q).isSome = true := by
      rw [hsome]
      rfl
    split
    · next row _ hanswer =>
      have hcreated : (b.createRow q project s).1 = .ok row := congrArg Prod.fst hanswer
      have hrecounts : (RowChange.assign q project).Recounts b g s p week ↔
          q = p ∧ week ∈ row.hours.keys := by
        simp [RowChange.Recounts, hknown, hcreated]
      have htotal := g.get?_takeCreated q p row week
      refine ⟨fun h ↦ ?_, fun h ↦ ?_, fun h hfiled ↦ ?_⟩
      · rw [hrecounts] at h
        rw [htotal, if_pos h, h.1]
      · rw [hrecounts] at h
        rw [htotal, if_neg h]
        rfl
      · apply weekSum_takeCreated
        intro hperson hweek
        by_cases hq : q = p
        · exact h (hrecounts.mpr ⟨hq, hweek⟩)
        · exact hfiled ⟨hq, hknown, row, hcreated, hperson, hweek⟩
    · next hanswer =>
      refine .refl g.sheet p week ?_
      rintro ⟨-, -, row, hcreated, -⟩
      rw [hanswer] at hcreated
      cases hcreated

theorem recount_unassign (id : AssignmentId) :
    g.sheet.Recount (g.unassign b id s).grid.sheet p week
      ((RowChange.unassign id).Recounts b g s p week)
      ((RowChange.unassign id).Misfiles b g s p week) := by
  unfold Grid.unassign
  split
  · next hnone => exact .refl g.sheet p week fun ⟨howner, _⟩ ↦ by simp [hnone] at howner
  · next q howner =>
    split
    · next hanswer =>
      have hdeleted : (b.deleteRow id s).1.isOk = true := by
        rw [hanswer]
        rfl
      have hrecounts : (RowChange.unassign id).Recounts b g s p week ↔
          q = p ∧ week ∈ g.weeksTaken q id := by
        constructor
        · rintro ⟨hp, -, hweek⟩
          obtain rfl := Option.some.inj (howner.symm.trans hp)
          exact ⟨rfl, hweek⟩
        · rintro ⟨rfl, hweek⟩
          exact ⟨howner, hdeleted, hweek⟩
      have htotal := get?_takeAway howner p week
      refine ⟨fun h ↦ ?_, fun h ↦ ?_, fun h _ ↦ ?_⟩
      · rw [hrecounts] at h
        exact htotal.trans (by rw [if_pos h, h.1])
      · rw [hrecounts] at h
        exact htotal.trans (if_neg h)
      · rw [hrecounts] at h
        exact weekSum_takeAway howner h
    · next hanswer =>
      refine .refl g.sheet p week ?_
      rintro ⟨-, hdeleted, -⟩
      rw [hanswer] at hdeleted
      cases hdeleted

end Grid

namespace RowChange

/-- Every change counts the held rows where it counts a pair anew, and leaves all other pairs
alone. -/
theorem recount (c : RowChange) (b : Backend σ) (g : Grid) (s : σ) (p : PersonId)
    (week : WeekKey) :
    g.sheet.Recount (c.action.perform b g s).1.sheet p week (c.Recounts b g s p week)
      (c.Misfiles b g s p week) := by
  cases c with
  | assign q project => exact g.recount_assign b s p week q project
  | unassign id => exact g.recount_unassign b s p week id
  | settle w => exact g.sheet.recount_settle p week w
  | prepare cells value =>
    have h : g.sheet.Recount _ p week _ False :=
      g.sheet.recount_prepare p week cells (Hours.clamp g.hoursCap value)
    rwa [Sheet.touched_prepare_iff] at h
  | apply cells value =>
    have h : g.sheet.Recount _ p week _ False :=
      g.sheet.recount_write p week b cells (Hours.clamp g.hoursCap value) s
    rw [Sheet.touched_prepare_iff, ← Grid.applyHours_eq_write] at h
    exact h

/-- No change loads anybody or unloads anybody. -/
theorem isLoaded_perform (c : RowChange) (b : Backend σ) (g : Grid) (s : σ) (p : PersonId) :
    (c.action.perform b g s).1.roster.isLoaded p = g.roster.isLoaded p := by
  have hfetches : c.action.fetches = false := by cases c <;> rfl
  generalize hlater : (c.action.perform b g s).1.roster = later
  have hleads : c.action.LeadsTo b g s later := hlater ▸ Action.LeadsTo.perform c.action b g s
  generalize c.action = a at hfetches hleads
  cases hleads with
  | revised _ f => exact Roster.isLoaded_revise g.roster f p
  | loaded h _ => exact absurd (hfetches.symm.trans h) nofun
  | fetched h _ => exact absurd (hfetches.symm.trans h) nofun
  | created _ _ => rw [Roster.push, Roster.isLoaded_file, Bool.or_false, ite_self]
  | removed id => exact Roster.isLoaded_remove g.roster id p

/-! ### Runs -/

/-- The grid and the backend's state after changes, one after the other. -/
def run (b : Backend σ) (changes : List RowChange) (x : Grid × σ) : Grid × σ :=
  Action.run b (changes.map action) x

variable {b : Backend σ} {p : PersonId} {week : WeekKey}

theorem isLoaded_run (changes : List RowChange) (x : Grid × σ) :
    (run b changes x).1.roster.isLoaded p = x.1.roster.isLoaded p := by
  induction changes generalizing x with
  | nil => rfl
  | cons c rest ih => exact (ih _).trans (c.isLoaded_perform b x.1 x.2 p)

/-- What a run never counts anew keeps its total. -/
theorem get?_run_of_never {changes : List RowChange} {x : Grid × σ}
    (h : ¬ EverRecounts b p week changes x) :
    (run b changes x).1.sheet.totals.get? p week = x.1.sheet.totals.get? p week := by
  induction changes generalizing x with
  | nil => rfl
  | cons c rest ih =>
    rw [EverRecounts, not_or] at h
    exact (ih h.2).trans ((c.recount b x.1 x.2 p week).kept h.1)

/-- What a run never counts anew keeps the sum of the held rows as well. -/
theorem weekSum_run_of_never {changes : List RowChange} {x : Grid × σ}
    (h : ¬ EverRecounts b p week changes x) (hfiled : ¬ EverMisfiles b p week changes x) :
    SameNumber (weekSum ((run b changes x).1.sheet.roster.rowsFor p) week)
      (weekSum (x.1.sheet.roster.rowsFor p) week) := by
  induction changes generalizing x with
  | nil => exact SameNumber.refl _
  | cons c rest ih =>
    rw [EverRecounts, not_or] at h
    rw [EverMisfiles, not_or] at hfiled
    exact (ih h.2 hfiled.2).trans ((c.recount b x.1 x.2 p week).sum h.1 hfiled.1)

/-- What a run counts anew at some time, or what was exact before it, is exact after it. -/
theorem isExact_run {changes : List RowChange} {x : Grid × σ}
    (hfiled : ¬ EverMisfiles b p week changes x)
    (h : EverRecounts b p week changes x ∨ x.1.sheet.IsExact p week) :
    (run b changes x).1.sheet.IsExact p week := by
  induction changes generalizing x with
  | nil => exact h.resolve_left id
  | cons c rest ih =>
    rw [EverMisfiles, not_or] at hfiled
    apply ih hfiled.2
    rcases h with (hnow | hlater) | hexact
    · exact .inr ((c.recount b x.1 x.2 p week).isExact hfiled.1 (.inl hnow))
    · exact .inl hlater
    · exact .inr ((c.recount b x.1 x.2 p week).isExact hfiled.1 (.inr hexact))

end RowChange

/-- While rows of a person are created, written and taken away the person is no more loaded than
before. A pair that is never counted anew keeps its total, and the sum of the held rows with it. A
pair that is counted anew at some time, or was exact before, ends at the sum of the held rows: at
zero, when no row is left. -/
theorem totals_after_row_changes (b : Backend σ) (changes : List RowChange) (g : Grid) (s : σ)
    (p : PersonId) (week : WeekKey) :
    let later := (RowChange.run b changes (g, s)).1
    let recounts := RowChange.EverRecounts b p week changes (g, s)
    let misfiles := RowChange.EverMisfiles b p week changes (g, s)
    later.roster.isLoaded p = g.roster.isLoaded p ∧
      (¬ recounts → later.total p week = g.total p week) ∧
      (¬ misfiles → ¬ recounts →
        SameNumber (weekSum (later.roster.rowsFor p) week) (weekSum (g.roster.rowsFor p) week)) ∧
      (¬ misfiles → recounts ∨ g.sheet.IsExact p week →
        SameNumber (later.total p week) (weekSum (later.roster.rowsFor p) week)) ∧
      (¬ misfiles → recounts → later.roster.rowsFor p = [] →
        SameNumber (later.total p week) 0) := by
  intro later recounts misfiles
  have hexact (hfiled : ¬ misfiles) (h : recounts ∨ g.sheet.IsExact p week) :
      SameNumber (later.total p week) (weekSum (later.roster.rowsFor p) week) :=
    RowChange.isExact_run hfiled h
  refine ⟨RowChange.isLoaded_run changes (g, s), ?_, ?_, hexact, ?_⟩
  · intro hnever
    exact congrArg (Option.getD · 0) (RowChange.get?_run_of_never hnever)
  · exact fun hfiled hnever ↦ RowChange.weekSum_run_of_never hnever hfiled
  · intro hfiled hcounts hnone
    have hzero : SameNumber (-0.0) 0 := .inl (by decide +kernel)
    have hsum := hexact hfiled (.inl hcounts)
    rw [hnone] at hsum
    exact hsum.trans hzero

/-- A row of somebody without any is created, filled and taken away again. -/
theorem totals_after_row_taken_away :
    let week : WeekKey := ⟨"2024-01-01"⟩
    let script : Script :=
      { standing? := some
          { weeks := [week]
            people := [⟨9, "Sam Ortiz"⟩]
            totals := Totals.empty.set 9 week 40 } }
    let changes : List RowChange :=
      [.assign 9 1, .apply [⟨⟨9, 1000⟩, week⟩] 8, .unassign 1000]
    let start := (({} : Grid).load Script.backend {} script).state
    let later := (RowChange.run Script.backend changes start).1
    later.roster.isLoaded 9 = false ∧ later.roster.rowsFor 9 = [] ∧
      SameNumber (later.total 9 week) 0 := by
  intro week script changes start later
  obtain ⟨hloaded, -, -, -, hzero⟩ :=
    totals_after_row_changes Script.backend changes start.1 start.2 9 week
  have hrows : later.roster.rowsFor 9 = [] := List.isEmpty_iff.mp (by decide +kernel)
  have hfiled : ¬ RowChange.EverMisfiles Script.backend 9 week changes start := by
    rintro (⟨hother, -⟩ | h | h | h)
    · exact hother rfl
    all_goals exact h
  have hcounts : RowChange.EverRecounts Script.backend 9 week changes start :=
    .inr (.inr (.inl ⟨by decide +kernel, by decide +kernel, by decide +kernel⟩))
  exact ⟨hloaded.trans (by decide +kernel), hrows, hzero hfiled hcounts hrows⟩

/-- Forty hours of rows that are not held are forgotten as soon as a row of the week is written. -/
theorem unseen_hours_forgotten :
    let week : WeekKey := ⟨"2024-01-01"⟩
    let script : Script :=
      { standing? := some
          { weeks := [week]
            people := [⟨9, "Sam Ortiz"⟩]
            totals := Totals.empty.set 9 week 40 } }
    let start := Action.run Script.backend [.operation (.load {})] ({}, script)
    let edited := RowChange.run Script.backend [.assign 9 1, .apply [⟨⟨9, 1000⟩, week⟩] 8] start
    let emptied := RowChange.run Script.backend [.unassign 1000] edited
    start.1.Reachable ∧ start.1.roster.isLoaded 9 = false ∧ start.1.total 9 week == 40 ∧
      weekSum (start.1.roster.rowsFor 9) week == 0 ∧
      edited.1.roster.isLoaded 9 = false ∧ edited.1.total 9 week == 8 ∧
      weekSum (edited.1.roster.rowsFor 9) week == 8 ∧
      emptied.1.roster.isLoaded 9 = false ∧ emptied.1.total 9 week == 0 := by
  intro week script start edited emptied
  refine ⟨.run _ (.new {} Hours.weekCap) _ script, ?_⟩
  decide +kernel

end AssignmentGrid
