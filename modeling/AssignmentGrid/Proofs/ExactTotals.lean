import Mathlib.Logic.Relation
import AssignmentGrid.Backend.Script
import AssignmentGrid.Proofs.Action
import AssignmentGrid.Proofs.Doubles
import AssignmentGrid.Proofs.RosterFiling
import AssignmentGrid.Proofs.WriteEffect

/-!
# Exact totals

A pair of a person and a week is exact when its total is the sum of the held rows. Each operation
that changes rows computes the totals anew in its own set of weeks. What these sets leave out has no
hours in the rows that came, went or changed, so that an exact pair stays exact. Specification
`SPEC_FULL.md:131–132`.
-/

namespace AssignmentGrid

/-- Whether the total of a pair is the sum of the held rows. -/
def Sheet.IsExact (s : Sheet) (p : PersonId) (week : WeekKey) : Prop :=
  SameNumber (s.totals.get p week) (weekSum (s.roster.rowsFor p) week)

/-! ### Sums -/

private theorem foldl_sameNumber {x y : Float} (h : SameNumber x y) (rows : List Assignment)
    (week : WeekKey) :
    SameNumber (rows.foldl (fun sum a ↦ sum + a.hours.amount week) x)
      (rows.foldl (fun sum a ↦ sum + a.hours.amount week) y) := by
  induction rows generalizing x y with
  | nil => exact h
  | cons a rest ih => exact ih (h.add_right (a.hours.amount week))

/-- A last row without hours in a week does not count for the week. -/
theorem weekSum_append_of_amount_zero (rows : List Assignment) {a : Assignment}
    {week : WeekKey} (h : a.hours.amount week = 0) :
    SameNumber (weekSum (rows ++ [a]) week) (weekSum rows week) := by
  unfold weekSum
  rw [List.foldl_append, List.foldl_cons, List.foldl_nil, h]
  exact SameNumber.add_zero _

/-- Taking out a row without hours in a week does not count for the week. -/
theorem weekSum_eraseP_of_amount_zero {rows : List Assignment} {q : Assignment → Bool}
    {week : WeekKey} (h : ∀ a, rows.find? q = some a → a.hours.amount week = 0) :
    SameNumber (weekSum (rows.eraseP q) week) (weekSum rows week) := by
  have all (rows : List Assignment) (h : ∀ a, rows.find? q = some a → a.hours.amount week = 0)
      (x : Float) :
      SameNumber ((rows.eraseP q).foldl (fun sum a ↦ sum + a.hours.amount week) x)
        (rows.foldl (fun sum a ↦ sum + a.hours.amount week) x) := by
    induction rows generalizing x with
    | nil => exact SameNumber.refl x
    | cons a rest ih =>
      by_cases hq : q a
      · rw [List.eraseP_cons_of_pos hq, List.foldl_cons, h a (List.find?_cons_of_pos hq)]
        exact foldl_sameNumber (SameNumber.add_zero x).symm rest week
      · rw [List.eraseP_cons_of_neg hq]
        apply ih
        intro b hb
        apply h
        rwa [List.find?_cons_of_neg hq]
  exact all rows h (-0.0)

/-- A week that is no key has no hours. -/
theorem Hours.amount_of_notMem_keys {h : Hours} {week : WeekKey} (hweek : week ∉ h.keys) :
    h.amount week = 0 := by
  rw [Std.ExtTreeMap.mem_keys] at hweek
  unfold amount
  rw [Std.ExtTreeMap.getElem?_eq_none hweek]
  rfl

namespace Sheet

/-- A pair that was just computed is exact. -/
theorem isExact_of_get? {s : Sheet} {p : PersonId} {week : WeekKey}
    (h : s.totals.get? p week = some (weekSum (s.roster.rowsFor p) week)) : s.IsExact p week := by
  unfold IsExact Totals.get
  rw [h]
  exact SameNumber.refl _

/-- A pair stays exact when its total stays and its sum stays the same number. -/
theorem IsExact.of_same {s t : Sheet} {p : PersonId} {week : WeekKey} (h : s.IsExact p week)
    (hget : t.totals.get? p week = s.totals.get? p week)
    (hsum : SameNumber (weekSum (t.roster.rowsFor p) week) (weekSum (s.roster.rowsFor p) week)) :
    t.IsExact p week := by
  unfold IsExact Totals.get at *
  rw [hget]
  exact h.trans hsum.symm

/-! ### Writes -/

/-- The sum of a pair that preparing does not touch stays. -/
theorem weekSum_prepare_of_not_touched {s : Sheet} {cells : List Cell} {value : Float}
    {p : PersonId} {week : WeekKey}
    (h : ¬ ∃ q ∈ (s.prepare cells value).1.plans, q.Touches p week) :
    weekSum ((s.prepare cells value).2.roster.rowsFor p) week =
      weekSum (s.roster.rowsFor p) week := by
  rw [roster_prepare]
  apply Roster.weekSum_revise_of_amount
  intro id a ha
  rw [getElem?_overwriting s cells value ha, if_neg]
  intro hcell
  exact h ((touched_prepare_iff s cells value p week).mpr ⟨id, hcell, by simp [ha]⟩)

/-- Preparing keeps exact pairs exact. -/
theorem IsExact.prepare {s : Sheet} {p : PersonId} {week : WeekKey} (h : s.IsExact p week)
    (cells : List Cell) (value : Float) : (s.prepare cells value).2.IsExact p week := by
  by_cases ht : ∃ q ∈ (s.prepare cells value).1.plans, q.Touches p week
  · apply isExact_of_get?
    rw [get?_prepare, if_pos ht]
  · apply h.of_same
    · rw [get?_prepare, if_neg ht]
    · rw [weekSum_prepare_of_not_touched ht]
      exact SameNumber.refl _

/-- Settling keeps exact pairs exact, whatever write is settled. -/
theorem IsExact.settle {s : Sheet} {p : PersonId} {week : WeekKey} (h : s.IsExact p week)
    (w : SentWrite) : (w.settle s).IsExact p week := by
  by_cases ht : ∃ e ∈ w.settled, e.1.Touches p week
  · apply isExact_of_get?
    rw [SentWrite.get?_settle, if_pos ht]
  · apply h.of_same
    · rw [SentWrite.get?_settle, if_neg ht]
    · rw [SentWrite.weekSum_settle_of_not_touched ht]
      exact SameNumber.refl _

/-- A write that nothing interrupts keeps exact pairs exact. -/
theorem IsExact.write {σ : Type} {s : Sheet} {p : PersonId} {week : WeekKey}
    (h : s.IsExact p week) (b : Backend σ) (cells : List Cell) (value : Float) (state : σ) :
    (s.write b cells value state).1.IsExact p week :=
  (h.prepare cells value).settle _

end Sheet

/-! ### Rows that come and go -/

namespace Grid

/-- Showing a created row files it and computes the totals of the weeks in which it has hours. -/
theorem get?_takeCreated (g : Grid) (p q : PersonId) (row : Assignment) (week : WeekKey) :
    (g.takeCreated p row).sheet.totals.get? q week =
      if p = q ∧ week ∈ row.hours.keys then
        some (weekSum ((g.takeCreated p row).sheet.roster.rowsFor p) week)
      else g.totals.get? q week :=
  Totals.get?_recomputeAll _ _ _ _ _ _

/-- A created row counts only for its person and the weeks in which it has hours. -/
theorem weekSum_takeCreated {g : Grid} {q : PersonId} {week : WeekKey} {row : Assignment}
    (h : row.person = q → week ∉ row.hours.keys) (p : PersonId) :
    SameNumber (weekSum ((g.takeCreated p row).sheet.roster.rowsFor q) week)
      (weekSum (g.roster.rowsFor q) week) := by
  rw [show (g.takeCreated p row).sheet.roster = g.roster.push row from rfl, Roster.push,
    Roster.rowsFor_file]
  split
  · next hq =>
    apply weekSum_append_of_amount_zero
    exact Hours.amount_of_notMem_keys (h hq.symm)
  · exact SameNumber.refl _

/-- Showing a created row of the person keeps exact pairs exact. -/
theorem isExact_takeCreated {g : Grid} {q : PersonId} {week : WeekKey}
    (h : g.sheet.IsExact q week) {p : PersonId} {row : Assignment} (hrow : row.person = p) :
    (g.takeCreated p row).sheet.IsExact q week := by
  subst hrow
  by_cases ht : row.person = q ∧ week ∈ row.hours.keys
  · apply Sheet.isExact_of_get?
    rw [get?_takeCreated, if_pos ht, ht.1]
  · apply h.of_same
    · rw [get?_takeCreated, if_neg ht]
      rfl
    · exact weekSum_takeCreated (fun hq hweek ↦ ht ⟨hq, hweek⟩) row.person

/-- The weeks in which totals are computed anew when a row is taken away. -/
def weeksTaken (g : Grid) (p : PersonId) (id : AssignmentId) : List WeekKey :=
  match (g.roster.rowsFor p).find? fun a ↦ a.id == id with
  | none => []
  | some row => g.axis.keys ++ row.hours.keys.filter fun week ↦ !g.axis.contains week

/-- Taking a row away from its owner computes the totals of its weeks and of the axis. -/
theorem get?_takeAway {g : Grid} {p : PersonId} {id : AssignmentId}
    (howner : g.roster.ownerOf? id = some p) (q : PersonId) (week : WeekKey) :
    (g.takeAway p id).sheet.totals.get? q week =
      if p = q ∧ week ∈ g.weeksTaken p id then
        some (weekSum ((g.takeAway p id).sheet.roster.rowsFor p) week)
      else g.totals.get? q week := by
  have hremoved : (g.roster.remove id).1 = (g.roster.rowsFor p).find? fun a ↦ a.id == id := by
    rw [Roster.remove_fst, howner]
    rfl
  rw [← Totals.get?_recomputeAll]
  unfold takeAway weeksTaken
  dsimp only
  rw [hremoved]
  cases (g.roster.rowsFor p).find? fun a ↦ a.id == id with
  | none => rfl
  | some row => rfl

/-- Taking a row away computes the totals of the axis and of the weeks in which it has hours. -/
theorem mem_weeksTaken {g : Grid} {p : PersonId} {id : AssignmentId} {a : Assignment}
    (ha : (g.roster.rowsFor p).find? (fun a ↦ a.id == id) = some a) (week : WeekKey) :
    week ∈ g.weeksTaken p id ↔ week ∈ g.axis.keys ∨ week ∈ a.hours.keys := by
  unfold weeksTaken
  rw [ha, List.mem_append, List.mem_filter, Bool.not_eq_true', Bool.eq_false_iff, ne_eq,
    WeekAxis.contains_iff]
  tauto

/-- A row that is taken away has no hours but in the weeks of which the totals are computed. -/
theorem amount_of_notMem_weeksTaken {g : Grid} {p : PersonId} {id : AssignmentId}
    {a : Assignment} (ha : (g.roster.rowsFor p).find? (fun a ↦ a.id == id) = some a)
    {week : WeekKey} (hweek : week ∉ g.weeksTaken p id) : a.hours.amount week = 0 := by
  rw [mem_weeksTaken ha] at hweek
  exact Hours.amount_of_notMem_keys fun hkey ↦ hweek (.inr hkey)

/-- A row that is taken away counts only for its owner and the weeks of which the totals are
computed. -/
theorem weekSum_takeAway {g : Grid} {p q : PersonId} {id : AssignmentId} {week : WeekKey}
    (howner : g.roster.ownerOf? id = some p) (h : ¬ (p = q ∧ week ∈ g.weeksTaken p id)) :
    SameNumber (weekSum ((g.takeAway p id).sheet.roster.rowsFor q) week)
      (weekSum (g.roster.rowsFor q) week) := by
  rw [show (g.takeAway p id).sheet.roster = (g.roster.remove id).2 from rfl,
    Roster.rowsFor_remove, howner]
  split
  · next hp =>
    obtain rfl := Option.some.inj hp
    apply weekSum_eraseP_of_amount_zero
    intro a ha
    exact amount_of_notMem_weeksTaken ha fun hweek ↦ h ⟨rfl, hweek⟩
  · exact SameNumber.refl _

/-- Taking a row away from its owner keeps exact pairs exact. -/
theorem isExact_takeAway {g : Grid} {q : PersonId} {week : WeekKey} (h : g.sheet.IsExact q week)
    {p : PersonId} {id : AssignmentId} (howner : g.roster.ownerOf? id = some p) :
    (g.takeAway p id).sheet.IsExact q week := by
  by_cases ht : p = q ∧ week ∈ g.weeksTaken p id
  · apply Sheet.isExact_of_get?
    rw [get?_takeAway howner, if_pos ht, ht.1]
  · apply h.of_same
    · rw [get?_takeAway howner, if_neg ht]
      rfl
    · exact weekSum_takeAway howner ht

/-- Creating a row keeps exact pairs exact when the row that is created is one of the person. -/
theorem isExact_assign {σ : Type} {g : Grid} {q : PersonId} {week : WeekKey}
    (h : g.sheet.IsExact q week) (b : Backend σ) (p : PersonId) (project : ProjectId) (s : σ)
    (hcreated : ∀ row, (b.createRow p project s).1 = .ok row → row.person = p) :
    (g.assign b p project s).grid.sheet.IsExact q week := by
  unfold assign
  split
  · exact h
  · split
    · next row s' hanswer => exact isExact_takeCreated h (hcreated row (by rw [hanswer]))
    · exact h

/-- Deleting a row keeps exact pairs exact. -/
theorem isExact_unassign {σ : Type} {g : Grid} {q : PersonId} {week : WeekKey}
    (h : g.sheet.IsExact q week) (b : Backend σ) (id : AssignmentId) (s : σ) :
    (g.unassign b id s).grid.sheet.IsExact q week := by
  unfold unassign
  split
  · exact h
  · next p howner =>
    split
    · exact isExact_takeAway h howner
    · exact h

/-- Exact pairs stay exact when rows and totals stay or are those after a write. -/
theorem isExact_of_write {σ : Type} {g g' : Grid} {b : Backend σ} {s s' : σ} {p : PersonId}
    {week : WeekKey} (h : g.sheet.IsExact p week)
    (hwrite : (g'.sheet, s') = (g.sheet, s) ∨
      ∃ cells value, (g'.sheet, s') = g.sheet.write b cells value s) :
    g'.sheet.IsExact p week := by
  rcases hwrite with hwrite | ⟨cells, value, hwrite⟩
  · rw [(Prod.mk.inj hwrite).1]
    exact h
  · rw [show g'.sheet = _ from congrArg Prod.fst hwrite]
    exact h.write b cells value s

end Grid

/-! ### Runs -/

/-- Whether an action brings rows from the backend in place of those held. -/
def Action.fetches : Action → Bool
  | operation (.load _) | operation .reload | operation (.setWeeks _) | operation (.setScope _)
  | operation (.expand _) | operation (.refresh _) | piece (.finishLoad _ _) => true
  | _ => false

/-- A step that fetches nothing, with whatever backend in whatever state. A row that is created
is a row of the person for whom it was asked. -/
def Grid.WriteStep (g g' : Grid) : Prop :=
  ∃ (σ : Type) (b : Backend σ) (s : σ) (a : Action), a.fetches = false ∧
    (∀ p project row, a = .operation (.assign p project) →
      (b.createRow p project s).1 = .ok row → row.person = p) ∧
    g' = (a.perform b g s).1

/-- A step that fetches nothing keeps exact pairs exact. -/
theorem Grid.WriteStep.isExact {g g' : Grid} (h : g.WriteStep g') {p : PersonId}
    {week : WeekKey} (hexact : g.sheet.IsExact p week) : g'.sheet.IsExact p week := by
  obtain ⟨σ, b, s, a, hfetch, hcreated, rfl⟩ := h
  cases a with
  | gesture m =>
    rw [show (Action.perform b g s (.gesture m)).1.sheet = (m.perform g).sheet from rfl,
      g.sheet_gesture m]
    exact hexact
  | piece x =>
    cases x with
    | beginLoad request => exact hexact
    | progress ticket job =>
      simp only [Action.perform, Piece.perform, recordProgress]
      split
      · exact hexact
      · exact hexact
    | finishLoad ticket obtained => cases hfetch
    | prepare cells value => exact hexact.prepare cells _
    | settle w => exact hexact.settle w
  | operation o =>
    cases o with
    | assign q project =>
      exact isExact_assign hexact b q project s fun row ↦ hcreated q project row rfl
    | unassign id => exact isExact_unassign hexact b id s
    | apply cells value =>
      exact isExact_of_write hexact (.inr ⟨cells, _, g.applyHours_eq_write b cells value s⟩)
    | commit => exact isExact_of_write hexact (g.commit_eq_write b s)
    | input i => exact isExact_of_write hexact (g.handle_eq_write b i s)
    | _ => cases hfetch

/-- Along any run that fetches nothing, with any number of writes in flight, an exact pair stays
exact. -/
theorem totals_stay_exact {g g' : Grid} (h : Relation.ReflTransGen Grid.WriteStep g g')
    {p : PersonId} {week : WeekKey} (hexact : g.sheet.IsExact p week) :
    g'.sheet.IsExact p week := by
  induction h with
  | refl => exact hexact
  | tail _ hstep ih => exact hstep.isExact ih

/-- A write of forty hours in place of eight is prepared and refused. -/
theorem totals_stay_exact_after_refusal :
    let week : WeekKey := ⟨"2024-01-01"⟩
    let row : Assignment :=
      { id := 42, person := 7, project := 3, hours := (∅ : Hours).insert week 8 }
    let g : Grid := { sheet := ⟨Roster.empty.push row, Totals.empty.set 7 week 8⟩ }
    let prepared := g.prepareHours [⟨row.row, week⟩] 40
    (prepared.2.settleHours ⟨prepared.1, [.failed "locked"]⟩).2.sheet.IsExact 7 week := by
  intro week row g prepared
  have hexact : g.sheet.IsExact 7 week := by
    have hrows : g.sheet.roster.rowsFor 7 = [row] := Roster.rowsFor_file Roster.empty row false 7
    have htotal : g.sheet.totals.get? 7 week = some 8 := by
      rw [Totals.get?_set, if_pos ⟨rfl, rfl⟩]
    have hamount : row.hours.amount week = 8 := by
      rw [Hours.amount, Std.ExtTreeMap.getElem?_insert_self]
      rfl
    unfold Sheet.IsExact Totals.get weekSum
    rw [hrows, htotal, List.foldl_cons, List.foldl_nil, hamount]
    exact .inl rfl
  have hprepare : g.WriteStep prepared.2 :=
    ⟨Script, Script.backend, {}, .piece (.prepare [⟨row.row, week⟩] 40), rfl, by simp, rfl⟩
  have hsettle :
      prepared.2.WriteStep (prepared.2.settleHours ⟨prepared.1, [.failed "locked"]⟩).2 :=
    ⟨Script, Script.backend, {}, .piece (.settle ⟨prepared.1, [.failed "locked"]⟩), rfl, by simp,
      rfl⟩
  exact totals_stay_exact ((Relation.ReflTransGen.single hprepare).tail hsettle) hexact

end AssignmentGrid
