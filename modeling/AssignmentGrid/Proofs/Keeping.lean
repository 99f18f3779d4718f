import AssignmentGrid.Proofs.Action
import AssignmentGrid.Proofs.Mirror
import AssignmentGrid.Proofs.WriteEnd

/-!
# Backends that keep rows

A reference for the server: it keeps rows under their numbers, shows them when asked, and changes
them as it is told. Any call may fail instead, and then it changes nothing. A grid that mirrors
such a server and runs a write to its end mirrors it again, whatever the server refuses.
-/

namespace AssignmentGrid

/-- A server that keeps rows: `stored` tells which, in each of its states. -/
structure Backend.Keeps {σ : Type} (b : Backend σ) (stored : σ → Stored) : Prop where
  /-- Rows are kept under their own numbers. -/
  keyed : ∀ s id a, stored s id = some a → a.id = id
  /-- A snapshot has all rows of a person or none, as they are kept. -/
  fetchSnapshot : ∀ weeks scope s, stored (b.fetchSnapshot weeks scope s).2 = stored s ∧
    ∀ snapshot, (b.fetchSnapshot weeks scope s).1 = .ok snapshot →
      (stored s).Shows snapshot.rows
  submitJob : ∀ weeks scope s, stored (b.submitJob weeks scope s).2 = stored s
  /-- So does a snapshot that a job has built. -/
  pollJob : ∀ job s, stored (b.pollJob job s).2 = stored s ∧
    ∀ status snapshot, (b.pollJob job s).1 = .ok status → status.state = .success →
      status.snapshot = .ok snapshot → (stored s).Shows snapshot.rows
  countPeople : ∀ scope s, stored (b.countPeople scope s).2 = stored s
  runsJobs : ∀ s, stored (b.runsJobs s).2 = stored s
  /-- The rows of a person are exactly those that are kept. -/
  fetchRows : ∀ p s, stored (b.fetchRows p s).2 = stored s ∧
    ∀ rows, (b.fetchRows p s).1 = .ok rows → (rows.map Assignment.id).Nodup ∧
      ∀ a, a ∈ rows ↔ stored s a.id = some a ∧ a.person = p
  /-- A created row has a fresh number, is of the person asked for and kept from then on. -/
  createRow : ∀ p project s,
    (∀ row, (b.createRow p project s).1 = .ok row → row.person = p ∧ stored s row.id = none ∧
      stored (b.createRow p project s).2 = Function.update (stored s) row.id (some row)) ∧
    (∀ e, (b.createRow p project s).1 = .error e →
      stored (b.createRow p project s).2 = stored s)
  deleteRow : ∀ id s,
    ((b.deleteRow id s).1 = .ok () →
      stored (b.deleteRow id s).2 = Function.update (stored s) id none) ∧
    (∀ e, (b.deleteRow id s).1 = .error e → stored (b.deleteRow id s).2 = stored s)
  /-- The hours of a row are replaced by those sent, and the row comes back as it is kept. -/
  updateHours : ∀ id hours s,
    (∀ row, (b.updateHours id hours s).1 = .ok row →
      (∃ old, stored s id = some old ∧ row = { old with hours }) ∧
      stored (b.updateHours id hours s).2 = Function.update (stored s) id (some row)) ∧
    (∀ e, (b.updateHours id hours s).1 = .error e →
      stored (b.updateHours id hours s).2 = stored s)
  /-- The hours of the rows that the answer to a batch accepts are replaced by those sent; rows
  that it rejects or leaves out stay as they were. -/
  updateMany : ∀ updates s, (updates.map HoursUpdate.assignment).Nodup →
    (∀ results, (b.updateMany updates s).1 = .ok results →
      (∀ r ∈ results, ∀ r' ∈ results, r.assignment = r'.assignment → r.isOk = r'.isOk) ∧
      (∀ u ∈ updates, (∃ r ∈ results, r.assignment = u.assignment ∧ r.isOk) →
        stored (b.updateMany updates s).2 u.assignment =
          (stored s u.assignment).map fun a ↦ { a with hours := u.hours }) ∧
      (∀ id, (∀ u ∈ updates, u.assignment = id →
          ¬ ∃ r ∈ results, r.assignment = id ∧ r.isOk) →
        stored (b.updateMany updates s).2 id = stored s id)) ∧
    (∀ e, (b.updateMany updates s).1 = .error e → stored (b.updateMany updates s).2 = stored s)

/-- A server that stores hours: as far as writes go, it keeps rows. -/
structure Backend.StoresHours {σ : Type} (b : Backend σ) (stored : σ → Stored) : Prop where
  /-- The hours of a row are replaced by those sent, and the row comes back as it is kept. -/
  updateHours : ∀ id hours s,
    (∀ row, (b.updateHours id hours s).1 = .ok row →
      (∃ old, stored s id = some old ∧ row = { old with hours }) ∧
      stored (b.updateHours id hours s).2 = Function.update (stored s) id (some row)) ∧
    (∀ e, (b.updateHours id hours s).1 = .error e →
      stored (b.updateHours id hours s).2 = stored s)
  /-- The hours of the rows that the answer to a batch accepts are replaced by those sent; rows
  that it rejects or leaves out stay as they were. -/
  updateMany : ∀ updates s, (updates.map HoursUpdate.assignment).Nodup →
    (∀ results, (b.updateMany updates s).1 = .ok results →
      (∀ r ∈ results, ∀ r' ∈ results, r.assignment = r'.assignment → r.isOk = r'.isOk) ∧
      (∀ u ∈ updates, (∃ r ∈ results, r.assignment = u.assignment ∧ r.isOk) →
        stored (b.updateMany updates s).2 u.assignment =
          (stored s u.assignment).map fun a ↦ { a with hours := u.hours }) ∧
      (∀ id, (∀ u ∈ updates, u.assignment = id →
          ¬ ∃ r ∈ results, r.assignment = id ∧ r.isOk) →
        stored (b.updateMany updates s).2 id = stored s id)) ∧
    (∀ e, (b.updateMany updates s).1 = .error e → stored (b.updateMany updates s).2 = stored s)

/-- A server that keeps rows stores hours. -/
theorem Backend.Keeps.storesHours {σ : Type} {b : Backend σ} {stored : σ → Stored}
    (hb : b.Keeps stored) : b.StoresHours stored where
  updateHours := hb.updateHours
  updateMany := hb.updateMany

/-- What the server keeps for a row after the row's part of a write was sent. -/
def PartKept (before after : Stored) (e : RowPlan × RowOutcome) : Prop :=
  match e.2 with
  | .committed stored? =>
    after e.1.row.assignment =
      (before e.1.row.assignment).map (fun a ↦ { a with hours := e.1.hours }) ∧
    ∀ row, stored? = some row → row.hours = e.1.hours
  | .failed _ => after e.1.row.assignment = before e.1.row.assignment

namespace Roster.Mirrors

variable {sheet : Sheet} {stored : Stored}

/-- Rows are planned for held rows only. -/
theorem row_of_mem_plans (h : sheet.roster.Mirrors stored) {cells : List Cell} {value : Float}
    {p : RowPlan} (hp : p ∈ (sheet.prepare cells value).1.plans) :
    p.row ∈ rowsOf cells ∧ ∃ a ∈ sheet.roster.rowsFor p.row.person, a.row = p.row := by
  obtain ⟨a, hrow, ha, -⟩ := (sheet.mem_plans_prepare cells value p).mp hp
  exact ⟨hrow, a, h.mem_of_find? ha⟩

/-- A plan for the number of a held row is a plan for this row. -/
theorem row_eq_of_mem_plans (h : sheet.roster.Mirrors stored) {cells : List Cell}
    {value : Float} {p : RowPlan} (hp : p ∈ (sheet.prepare cells value).1.plans) {q : PersonId}
    {a : Assignment} (ha : a ∈ sheet.roster.rowsFor q) (hid : p.row.assignment = a.id) :
    p.row = a.row := by
  obtain ⟨-, c, hc, hcr⟩ := h.row_of_mem_plans hp
  have hca : c = a := by
    apply h.eq_of_id_eq hc ha
    rw [← hid, ← hcr]
    rfl
  rw [← hcr, hca]

end Roster.Mirrors

/-! ### Sending -/

namespace Backend.StoresHours

variable {σ : Type} {b : Backend σ} {stored : σ → Stored}

private theorem send_alone (hb : b.StoresHours stored) {w : PreparedWrite} {p : RowPlan}
    (hplans : w.plans = [p]) (s : σ) :
    (∀ e ∈ (w.send b s).1.settled, PartKept (stored s) (stored (w.send b s).2) e) ∧
      ∀ id, p.row.assignment ≠ id → stored (w.send b s).2 id = stored s id := by
  have hupdate := hb.updateHours p.row.assignment p.hours s
  have hsettled : (w.send b s).1.settled = [(p, PreparedWrite.outcomeAlone b s p)] := by
    rw [PreparedWrite.settled_send, hplans]
    rfl
  rw [hsettled, PreparedWrite.send_of_single w b s hplans]
  unfold PreparedWrite.outcomeAlone
  dsimp only
  split
  · next row hanswer =>
    obtain ⟨⟨old, hold, hrow⟩, hafter⟩ := hupdate.1 row hanswer
    rw [hafter]
    constructor
    · intro e he
      rw [List.mem_singleton.mp he]
      simp only [PartKept, Function.update_self, hold, Option.map_some, hrow,
        Option.some.injEq, true_and]
      rintro row' rfl
      rfl
    · intro id hid
      rw [Function.update_of_ne (Ne.symm hid)]
  · next e hanswer =>
    rw [hupdate.2 e hanswer]
    constructor
    · intro part hpart
      rw [List.mem_singleton.mp hpart]
      rfl
    · intro id _
      rfl

/-- The last entry for a row counts, and where all entries for it agree, any one does. -/
private theorem outcomeIn_eq {results : List RowResult}
    (hagree : ∀ r ∈ results, ∀ r' ∈ results, r.assignment = r'.assignment → r.isOk = r'.isOk)
    (p : RowPlan) :
    (outcomeIn results p = .committed none ∧
        ∃ r ∈ results, r.assignment = p.row.assignment ∧ r.isOk) ∨
      ((∃ reason, outcomeIn results p = .failed reason) ∧
        ¬ ∃ r ∈ results, r.assignment = p.row.assignment ∧ r.isOk) := by
  unfold outcomeIn
  split
  · next r hr =>
    have hmem : r ∈ results := List.mem_reverse.mp (List.mem_of_find?_eq_some hr)
    have hid : r.assignment = p.row.assignment := by simpa using List.find?_some hr
    split
    · next hok => exact .inl ⟨rfl, r, hmem, hid, hok⟩
    · next hok =>
      refine .inr ⟨⟨_, rfl⟩, ?_⟩
      rintro ⟨r', hmem', hid', hok'⟩
      rw [hagree r' hmem' r hmem (hid'.trans hid.symm)] at hok'
      exact hok hok'
  · next hnone =>
    refine .inr ⟨⟨_, rfl⟩, ?_⟩
    rintro ⟨r, hmem, hid, -⟩
    have hr := List.find?_eq_none.mp hnone r (List.mem_reverse.mpr hmem)
    simp [hid] at hr

private theorem send_batch (hb : b.StoresHours stored) {w : PreparedWrite}
    (hmany : 2 ≤ w.plans.length) (hids : (w.plans.map fun p ↦ p.row.assignment).Nodup) (s : σ) :
    (∀ e ∈ (w.send b s).1.settled, PartKept (stored s) (stored (w.send b s).2) e) ∧
      ∀ id, (∀ p ∈ w.plans, p.row.assignment ≠ id) →
        stored (w.send b s).2 id = stored s id := by
  have hsettled : (w.send b s).1.settled = w.plans.map fun p ↦ (p, w.outcomeInBatch b s p) := by
    rw [PreparedWrite.settled_send, if_neg (by omega)]
  have hassignments : (w.updates.map HoursUpdate.assignment).Nodup := by
    unfold PreparedWrite.updates
    rw [List.map_map]
    exact hids
  have hupdate := hb.updateMany w.updates s hassignments
  rw [hsettled, PreparedWrite.send_of_batch w b s hmany]
  unfold PreparedWrite.outcomeInBatch
  dsimp only
  split
  · next results hanswer =>
    obtain ⟨hagree, haccepted, hother⟩ := hupdate.1 results hanswer
    have hmem {p : RowPlan} (hp : p ∈ w.plans) :
        ⟨p.row.assignment, p.hours⟩ ∈ w.updates := List.mem_map.mpr ⟨p, hp, rfl⟩
    constructor
    · intro e he
      obtain ⟨p, hp, rfl⟩ := List.mem_map.mp he
      rcases outcomeIn_eq hagree p with ⟨hout, hok⟩ | ⟨⟨reason, hout⟩, hnot⟩
      · simp only [PartKept, hout]
        exact ⟨haccepted _ (hmem hp) hok, nofun⟩
      · simp only [PartKept, hout]
        exact hother _ fun _ _ _ ↦ hnot
    · intro id hid
      apply hother
      intro u hu hassignment
      obtain ⟨p, hp, rfl⟩ := List.mem_map.mp hu
      exact absurd hassignment (hid p hp)
  · next e hanswer =>
    rw [hupdate.2 e hanswer]
    constructor
    · intro part hpart
      obtain ⟨p, -, rfl⟩ := List.mem_map.mp hpart
      rfl
    · intro id _
      rfl

/-- What the server keeps after a write was sent: the hours of the rows that were taken, and
everything else as before. -/
theorem send (hb : b.StoresHours stored) {w : PreparedWrite}
    (hids : (w.plans.map fun p ↦ p.row.assignment).Nodup) (s : σ) :
    (∀ e ∈ (w.send b s).1.settled, PartKept (stored s) (stored (w.send b s).2) e) ∧
      ∀ id, (∀ p ∈ w.plans, p.row.assignment ≠ id) →
        stored (w.send b s).2 id = stored s id := by
  by_cases hmany : 2 ≤ w.plans.length
  · exact hb.send_batch hmany hids s
  · cases hplans : w.plans with
    | nil =>
      rw [PreparedWrite.send_of_nil w b s hplans]
      simp [SentWrite.settled]
    | cons p rest =>
      have hrest : rest = [] := by
        rw [hplans, List.length_cons] at hmany
        exact List.length_eq_zero_iff.mp (by omega)
      subst hrest
      obtain ⟨hparts, hother⟩ := hb.send_alone hplans s
      exact ⟨hparts, fun id hid ↦ hother id (hid p List.mem_cons_self)⟩

end Backend.StoresHours

namespace Backend.Keeps

variable {σ : Type} {b : Backend σ} {stored : σ → Stored}

/-! ### Writing -/

/-- What settling makes of a planned row is what the server keeps for it. -/
private theorem kept_of_partKept {sheet : Sheet} {s : σ} {cells : List Cell} {value : Float}
    {a : Assignment} (hfound : sheet.roster.find? a.row = some a)
    (hkept : stored s a.id = some a) {outcome : RowOutcome}
    (he : (RowPlan.ofRow cells value a.row a, outcome) ∈
      ((sheet.prepare cells value).1.send b s).1.settled) {after : Stored}
    (hpart : PartKept (stored s) after (RowPlan.ofRow cells value a.row a, outcome)) :
    after a.id = some
      { a with
        hours := settling ((sheet.prepare cells value).1.send b s).1.settled a.row
          (Sheet.overwriting (sheet.prepare cells value).1.plans a.row a.hours) } := by
  have hout : ((sheet.prepare cells value).1.send b s).1.outcome? a.row = some outcome :=
    SentWrite.outcome?_of_mem (nodup_rows_settled_send sheet cells value b s) he
  have hentry := getElem?_settling_overwriting sheet cells value b s hout hfound
  cases outcome with
  | failed reason =>
    have hhours : settling ((sheet.prepare cells value).1.send b s).1.settled a.row
        (Sheet.overwriting (sheet.prepare cells value).1.plans a.row a.hours) = a.hours := by
      apply Hours.ext_getElem?
      intro week
      rw [hentry]
      exact ite_self _
    rw [hhours]
    exact hpart.trans hkept
  | committed stored? =>
    have hhours : settling ((sheet.prepare cells value).1.send b s).1.settled a.row
        (Sheet.overwriting (sheet.prepare cells value).1.plans a.row a.hours) =
          (RowPlan.ofRow cells value a.row a).hours := by
      apply Hours.ext_getElem?
      intro week
      rw [hentry, RowPlan.getElem?_hours_ofRow]
      cases stored? with
      | none => rfl
      | some row =>
        split
        · next hcell =>
          simp only [RowOutcome.entry, hpart.2 row rfl]
          rw [RowPlan.getElem?_hours_ofRow, if_pos hcell]
        · rfl
    rw [hhours]
    refine hpart.1.trans ?_
    rw [show (RowPlan.ofRow cells value a.row a).row.assignment = a.id from rfl, hkept]
    rfl

/-- A write that runs to its end keeps the mirror. -/
theorem mirrors_write (hb : b.Keeps stored) {sheet : Sheet} {s : σ}
    (h : sheet.roster.Mirrors (stored s)) (cells : List Cell) (value : Float) :
    (sheet.write b cells value s).1.roster.Mirrors
      (stored (sheet.write b cells value s).2) := by
  obtain ⟨hparts, hother⟩ := hb.storesHours.send (sheet.nodup_assignments_plans cells value) s
  have hafter : (sheet.write b cells value s).2 =
      ((sheet.prepare cells value).1.send b s).2 := rfl
  rw [Sheet.roster_write, hafter]
  apply h.revise
  · intro p a ha
    have hfound := h.find?_row ha
    have hkept := (h.kept p a ha).1
    by_cases hnamed : a.row ∈ rowsOf cells
    · have hmem : RowPlan.ofRow cells value a.row a ∈ (sheet.prepare cells value).1.plans :=
        (sheet.mem_plans_prepare cells value _).mpr ⟨a, hnamed, hfound, rfl⟩
      rw [← PreparedWrite.plans_settled_send _ b s] at hmem
      obtain ⟨⟨q, outcome⟩, he, rfl : q = RowPlan.ofRow cells value a.row a⟩ :=
        List.mem_map.mp hmem
      exact kept_of_partKept hfound hkept he (hparts _ he)
    · rw [settling_overwriting_of_not_named sheet cells value b s hfound, hother, hkept]
      · intro q hq hid
        exact hnamed (h.row_eq_of_mem_plans hq ha hid ▸ (h.row_of_mem_plans hq).1)
      · intro c hc hrow
        exact hnamed (mem_rowsOf.mpr ⟨c.week, hrow ▸ hc⟩)
  · intro id hid
    apply hother
    intro p hp
    obtain ⟨-, a, ha, hrow⟩ := h.row_of_mem_plans hp
    rw [← hrow]
    exact hid _ a ha

end Backend.Keeps

end AssignmentGrid
