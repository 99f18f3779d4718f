import Mathlib.Data.List.FinRange
import AssignmentGrid.Proofs.WriteOutcome

/-!
# Writes side by side

Writes to different cells may be prepared and settled in any order. While they are under way each
cell holds what its own write has made of it, whatever the others do to the rest of the row: plans
carry a copy of all hours of a row, but settling looks at the former entries of its own weeks only.
-/

namespace AssignmentGrid

/-- A write whose rows end in a fixed way. -/
structure FixedWrite where
  cells : List Cell
  value : Float
  outcome : RowKey → RowOutcome

/-- A step of one of several writes. -/
inductive Stage (n : Nat) where
  | prepare (i : Fin n)
  | settle (i : Fin n)
  deriving DecidableEq

/-- The write that takes a step. -/
def Stage.write {n : Nat} : Stage n → Fin n
  | prepare i | settle i => i

@[simp] theorem Stage.write_prepare {n : Nat} (i : Fin n) : (prepare i).write = i := rfl

@[simp] theorem Stage.write_settle {n : Nat} (i : Fin n) : (settle i).write = i := rfl

/-- Rows and totals while writes are under way. -/
structure Flight (n : Nat) where
  sheet : Sheet
  /-- The writes that were prepared. -/
  prepared? : Fin n → Option PreparedWrite := fun _ ↦ none
  /-- What was reported of the writes that were settled. -/
  report? : Fin n → Option WriteReport := fun _ ↦ none

/-- A prepared write as it is sent, with the fixed outcomes of its rows. -/
def FixedWrite.sent (x : FixedWrite) (w : PreparedWrite) : SentWrite :=
  ⟨w, w.plans.map fun p ↦ x.outcome p.row⟩

/-- The state after a step. A write that was not prepared is not settled. -/
def Flight.step {n : Nat} (writes : Fin n → FixedWrite) (f : Flight n) : Stage n → Flight n
  | .prepare i =>
    let prepared := f.sheet.prepare (writes i).cells (writes i).value
    { f with
      sheet := prepared.2
      prepared? := Function.update f.prepared? i (some prepared.1) }
  | .settle i =>
    match f.prepared? i with
    | none => f
    | some w =>
      { f with
        sheet := ((writes i).sent w).settle f.sheet
        report? := Function.update f.report? i (some ((writes i).sent w).report) }

/-- The state after steps. -/
def Flight.run {n : Nat} (writes : Fin n → FixedWrite) (stages : List (Stage n)) (s : Sheet) :
    Flight n :=
  stages.foldl (step writes) { sheet := s }

theorem Flight.run_append_singleton {n : Nat} (writes : Fin n → FixedWrite)
    (pre : List (Stage n)) (x : Stage n) (s : Sheet) :
    run writes (pre ++ [x]) s = (run writes pre s).step writes x := by
  simp [run]

/-- Whether each write is prepared once and settled once after that. -/
def IsInterleaving {n : Nat} (stages : List (Stage n)) : Prop :=
  ∀ i, (stages.filter fun x ↦ x.write = i) = [.prepare i, .settle i]

/-- The writes one after the other. -/
def inTurn (n : Nat) : List (Stage n) :=
  (List.finRange n).flatMap fun i ↦ [.prepare i, .settle i]

/-- The entry of a cell; nothing if its row is not found. -/
def Roster.entry? (r : Roster) (c : Cell) : Option (Option Float) :=
  (r.find? c.row).map fun a ↦ a.hours[c.week]?

/-- Whether a cell of a held row that counts for a pair is among cells. -/
def Sheet.Counts (s : Sheet) (cells : List Cell) (p : PersonId) (week : WeekKey) : Prop :=
  ∃ id, (⟨⟨p, id⟩, week⟩ : Cell) ∈ cells ∧ (s.roster.find? ⟨p, id⟩).isSome

/-- Whether a sheet arises from another one by a change of the given cells, with the totals for
which they count computed anew. -/
structure Sheet.ChangesOnly (s t : Sheet) (cells : List Cell) (k : RowKey → Hours → Hours) :
    Prop where
  roster : t.roster = s.roster.revise k
  others : ∀ row a, s.roster.find? row = some a → ∀ week, (⟨row, week⟩ : Cell) ∉ cells →
    (k row a.hours)[week]? = a.hours[week]?
  counted : ∀ p week, s.Counts cells p week →
    t.totals.get? p week = some (weekSum (t.roster.rowsFor p) week)
  uncounted : ∀ p week, ¬ s.Counts cells p week → t.totals.get? p week = s.totals.get? p week

/-- The steps in front of a step. -/
def stepsBefore {α : Type} [DecidableEq α] (steps : List α) (x : α) : List α :=
  steps.takeWhile (· ≠ x)

/-! ### Orders of steps -/

theorem stepsBefore_append {α : Type} [DecidableEq α] {pre : List α} {x : α} (h : x ∉ pre)
    (post : List α) : stepsBefore (pre ++ x :: post) x = pre := by
  have hall : ∀ y ∈ pre, decide (y ≠ x) = true := by
    intro y hy
    rw [decide_eq_true_iff]
    rintro rfl
    exact h hy
  unfold stepsBefore
  rw [List.takeWhile_append_of_pos hall, List.takeWhile_cons_of_neg (by simp), List.append_nil]

/-- Steps split at a step that occurs among them. -/
theorem exists_eq_stepsBefore_append {α : Type} [DecidableEq α] {steps : List α} {x : α}
    (h : x ∈ steps) : ∃ post, steps = stepsBefore steps x ++ x :: post := by
  unfold stepsBefore
  induction steps with
  | nil => cases h
  | cons y rest ih =>
    by_cases hy : y = x
    · exact ⟨rest, by simp [hy]⟩
    · have hrest : x ∈ rest := (List.mem_cons.mp h).resolve_left (Ne.symm hy)
      obtain ⟨post, hpost⟩ := ih hrest
      refine ⟨post, ?_⟩
      rw [List.takeWhile_cons_of_pos (by simpa using hy), List.cons_append, ← hpost]

section Orders

variable {n : Nat}

/-- When a write is prepared, it has taken no step before. -/
theorem IsInterleaving.before_prepare {pre post : List (Stage n)} {i : Fin n}
    (h : IsInterleaving (pre ++ .prepare i :: post)) : ∀ x ∈ pre, x.write ≠ i := by
  have hi := h i
  rw [List.filter_append, List.filter_cons_of_pos (by simp [Stage.write])] at hi
  cases hpre : pre.filter fun x ↦ x.write = i with
  | nil =>
    intro x hx hw
    have hmem : x ∈ pre.filter fun x ↦ x.write = i := List.mem_filter.mpr ⟨hx, by simpa using hw⟩
    simp [hpre] at hmem
  | cons first rest =>
    rw [hpre] at hi
    cases rest with
    | nil => simp at hi
    | cons second more => simp at hi

/-- When a write is settled, it has been prepared and nothing else. -/
theorem IsInterleaving.before_settle {pre post : List (Stage n)} {i : Fin n}
    (h : IsInterleaving (pre ++ .settle i :: post)) :
    .prepare i ∈ pre ∧ .settle i ∉ pre := by
  have hi := h i
  rw [List.filter_append, List.filter_cons_of_pos (by simp [Stage.write])] at hi
  cases hpre : pre.filter fun x ↦ x.write = i with
  | nil => simp [hpre] at hi
  | cons first rest =>
    rw [hpre] at hi
    cases rest with
    | cons second more => simp at hi
    | nil =>
      have hfirst : first = .prepare i := by simpa using (List.cons.inj hi).1
      subst hfirst
      constructor
      · have hmem : Stage.prepare i ∈ pre.filter fun x ↦ x.write = i := by simp [hpre]
        exact (List.mem_filter.mp hmem).1
      · intro hs
        have hmem : Stage.settle i ∈ pre.filter fun x ↦ x.write = i :=
          List.mem_filter.mpr ⟨hs, by simp [Stage.write]⟩
        simp [hpre] at hmem

/-- When a write is settled, its preparation is its only step before. -/
theorem IsInterleaving.split_settle {pre post : List (Stage n)} {i : Fin n}
    (h : IsInterleaving (pre ++ .settle i :: post)) :
    ∃ first mid, pre = first ++ .prepare i :: mid ∧ (∀ x ∈ first, x.write ≠ i) ∧
      ∀ x ∈ mid, x.write ≠ i := by
  obtain ⟨first, mid, rfl⟩ := List.append_of_mem h.before_settle.1
  have hfirst : ∀ x ∈ first, x.write ≠ i := by
    rw [List.append_assoc, List.cons_append] at h
    exact h.before_prepare
  have hnone : first.filter (fun x ↦ x.write = i) = [] := by
    simpa [List.filter_eq_nil_iff] using hfirst
  have hmid : ∀ x ∈ mid, x.write ≠ i := by
    have hi := h i
    simp [List.filter_append, hnone, List.append_eq_singleton_iff] at hi
    exact hi.1
  exact ⟨first, mid, rfl, hfirst, hmid⟩

/-- After a write was settled, it takes no step any more. -/
theorem IsInterleaving.after_settle {pre post : List (Stage n)} {i : Fin n}
    (h : IsInterleaving (pre ++ post)) (hi : .settle i ∈ pre) : ∀ x ∈ post, x.write ≠ i := by
  obtain ⟨before, between, rfl⟩ := List.append_of_mem hi
  rw [List.append_assoc, List.cons_append] at h
  obtain ⟨first, mid, rfl, -, -⟩ := h.split_settle
  have hlength := congrArg List.length (h i)
  have hnone : (post.filter fun x ↦ x.write = i).length = 0 := by
    simp [List.filter_append] at hlength
    omega
  simpa [List.filter_eq_nil_iff] using hnone

/-- Every write takes both of its steps. -/
theorem IsInterleaving.mem {stages : List (Stage n)} (h : IsInterleaving stages) (i : Fin n) :
    .prepare i ∈ stages ∧ .settle i ∈ stages := by
  have hmem (x : Stage n) (hx : x ∈ [Stage.prepare i, .settle i]) : x ∈ stages := by
    rw [← h i] at hx
    exact (List.mem_filter.mp hx).1
  exact ⟨hmem _ (by simp), hmem _ (by simp)⟩

/-- Writes that run one after the other are an interleaving. -/
theorem isInterleaving_inTurn (n : Nat) : IsInterleaving (inTurn n) := by
  intro i
  have all (is : List (Fin n)) (hn : is.Nodup) :
      ((is.flatMap fun j ↦ [Stage.prepare j, .settle j]).filter fun x ↦ x.write = i) =
        if i ∈ is then [.prepare i, .settle i] else [] := by
    induction is with
    | nil => simp
    | cons j rest ih =>
      rw [List.nodup_cons] at hn
      rw [List.flatMap_cons, List.filter_append, ih hn.2]
      by_cases hj : j = i
      · subst hj
        simp [Stage.write, hn.1]
      · simp [Stage.write, hj, Ne.symm hj]
  unfold inTurn
  rw [all _ (List.nodup_finRange n), if_pos (List.mem_finRange i)]

end Orders

/-! ### Changes of some cells -/

namespace Sheet

variable {s t : Sheet} {cells : List Cell} {k : RowKey → Hours → Hours}

/-- A cell that is not among the changed ones keeps its entry. -/
theorem ChangesOnly.entry?_eq (h : s.ChangesOnly t cells k) {c : Cell} (hc : c ∉ cells) :
    t.roster.entry? c = s.roster.entry? c := by
  unfold Roster.entry?
  rw [h.roster, Roster.find?_revise, Option.map_map]
  cases ha : s.roster.find? c.row with
  | none => rfl
  | some a => exact congrArg some (h.others c.row a ha c.week hc)

/-- The sum of a pair for which no changed cell counts stays. -/
theorem ChangesOnly.weekSum_eq (h : s.ChangesOnly t cells k) {p : PersonId} {week : WeekKey}
    (hp : ¬ s.Counts cells p week) :
    weekSum (t.roster.rowsFor p) week = weekSum (s.roster.rowsFor p) week := by
  rw [h.roster]
  apply Roster.weekSum_revise_of_amount
  intro id a ha
  apply h.others ⟨p, id⟩ a ha
  intro hcell
  exact hp ⟨id, hcell, by simp [ha]⟩

/-- Preparing changes only the cells of the write. -/
theorem changesOnly_prepare (s : Sheet) (cells : List Cell) (value : Float) :
    s.ChangesOnly (s.prepare cells value).2 cells
      (overwriting (s.prepare cells value).1.plans) where
  roster := s.roster_prepare cells value
  others := by
    intro row a ha week hcell
    rw [s.getElem?_overwriting cells value ha, if_neg hcell]
  counted := by
    intro p week hp
    rw [s.get?_prepare, if_pos ((s.touched_prepare_iff cells value p week).mpr hp)]
  uncounted := by
    intro p week hp
    rw [s.get?_prepare, if_neg]
    intro ht
    exact hp ((s.touched_prepare_iff cells value p week).mp ht)

end Sheet

/-! ### Plans of writes that are under way -/

/-- Whether a write was prepared while its cells held what they hold in a sheet. Other hours of
the rows may have been different. -/
structure PreparedWrite.Remembers (w : PreparedWrite) (s : Sheet) (cells : List Cell) : Prop where
  rows : w.plans.map RowPlan.row = (rowsOf cells).filter fun row ↦ (s.roster.find? row).isSome
  former : ∀ p ∈ w.plans, ∀ a, s.roster.find? p.row = some a →
    p.former = (weeksOf cells p.row).map fun week ↦ (week, a.hours[week]?)
  skipped : w.skipped = (rowsOf cells).filter fun row ↦ (s.roster.find? row).isNone

/-- A write remembers the sheet in which it is prepared. -/
theorem Sheet.remembers_prepare (s : Sheet) (cells : List Cell) (value : Float) :
    (s.prepare cells value).1.Remembers s cells where
  rows := s.rows_plans_prepare cells value
  former := by
    intro p hp a ha
    obtain ⟨a', -, ha', hpa⟩ := (s.mem_plans_prepare cells value p).mp hp
    rw [ha] at ha'
    obtain rfl := Option.some.inj ha'
    rw [hpa]
    rfl
  skipped := s.skipped_prepare cells value

/-- What is reported of a write, as far as its rows are held. -/
def FixedWrite.reportOn (x : FixedWrite) (s : Sheet) : WriteReport :=
  let held := (rowsOf x.cells).filter fun row ↦ (s.roster.find? row).isSome
  { committed := held.filter fun row ↦ (x.outcome row).reason?.isNone
    failed := held.filterMap fun row ↦ (x.outcome row).reason?.map fun reason ↦ (row, reason)
    skipped := (rowsOf x.cells).filter fun row ↦ (s.roster.find? row).isNone }

namespace PreparedWrite.Remembers

variable {w : PreparedWrite} {s : Sheet} {cells : List Cell}

theorem nodup_rows (hw : w.Remembers s cells) : (w.plans.map RowPlan.row).Nodup := by
  rw [hw.rows]
  exact (nodup_rowsOf cells).filter _

/-- Only rows that are named and held are planned. -/
theorem mem_rowsOf (hw : w.Remembers s cells) {p : RowPlan} (hp : p ∈ w.plans) :
    p.row ∈ rowsOf cells ∧ (s.roster.find? p.row).isSome := by
  have hmem : p.row ∈ w.plans.map RowPlan.row := List.mem_map_of_mem hp
  rw [hw.rows] at hmem
  exact List.mem_filter.mp hmem

/-- A planned row is written in its named weeks. -/
theorem weeks_eq (hw : w.Remembers s cells) {p : RowPlan} (hp : p ∈ w.plans) :
    p.weeks = weeksOf cells p.row := by
  obtain ⟨a, ha⟩ := Option.isSome_iff_exists.mp (hw.mem_rowsOf hp).2
  unfold RowPlan.weeks
  rw [hw.former p hp a ha, List.map_map]
  exact List.map_id _

/-- Every row that is named and held is planned. -/
theorem exists_plan (hw : w.Remembers s cells) {row : RowKey} (hrow : row ∈ rowsOf cells)
    (hheld : (s.roster.find? row).isSome) : ∃ p ∈ w.plans, p.row = row := by
  have hplan : row ∈ w.plans.map RowPlan.row := by
    rw [hw.rows]
    exact List.mem_filter.mpr ⟨hrow, hheld⟩
  exact List.mem_map.mp hplan

end PreparedWrite.Remembers

namespace FixedWrite

variable {x : FixedWrite} {w : PreparedWrite} {s : Sheet}

theorem settled_sent (x : FixedWrite) (w : PreparedWrite) :
    (x.sent w).settled = w.plans.map fun p ↦ (p, x.outcome p.row) :=
  List.map_prod_left_eq_zip.symm

/-- The report depends on the held rows and their outcomes only. -/
theorem report_sent (hw : w.Remembers s x.cells) : (x.sent w).report = x.reportOn s := by
  unfold reportOn
  dsimp only
  rw [SentWrite.report_eq, settled_sent, ← hw.rows, ← hw.skipped, List.filter_map, List.filter_map,
    List.map_map, List.filterMap_map, List.filterMap_map]
  rfl

theorem nodup_rows_sent (hw : w.Remembers s x.cells) :
    ((x.sent w).settled.map fun e ↦ e.1.row).Nodup := by
  rw [settled_sent, List.map_map]
  exact hw.nodup_rows

/-- Settling gives the cells of the write what its outcome says, whatever they hold by then. -/
theorem getElem?_settling_sent_eq (hw : w.Remembers s x.cells) {row : RowKey} {a : Assignment}
    (ha : s.roster.find? row = some a) (h : Hours) {week : WeekKey}
    (hcell : (⟨row, week⟩ : Cell) ∈ x.cells) :
    (settling (x.sent w).settled row h)[week]? =
      (x.outcome row).settledEntry week a.hours[week]? h[week]? := by
  obtain ⟨p, hp, rfl⟩ := hw.exists_plan (mem_rowsOf.mpr ⟨week, hcell⟩) (by simp [ha])
  have he : (p, x.outcome p.row) ∈ (x.sent w).settled := by
    rw [settled_sent]
    exact List.mem_map_of_mem hp
  rw [SentWrite.getElem?_settling (nodup_rows_sent hw) he (hw.former p hp a ha), if_pos hcell]

/-- Settling gives the cells of the write what its outcome leaves. -/
theorem getElem?_settling_sent (hw : w.Remembers s x.cells) {row : RowKey} {a : Assignment}
    (ha : s.roster.find? row = some a) {h : Hours}
    (hh : ∀ week, (⟨row, week⟩ : Cell) ∈ x.cells → h[week]? = some x.value) {week : WeekKey}
    (hcell : (⟨row, week⟩ : Cell) ∈ x.cells) :
    (settling (x.sent w).settled row h)[week]? =
      (x.outcome row).entry x.value week a.hours[week]? := by
  rw [getElem?_settling_sent_eq hw ha h hcell, hh week hcell, RowOutcome.settledEntry_some]

/-- Settling changes only the cells of the write, also in a sheet in which other hours of the rows
are different by then. -/
theorem changesOnly_settle (hw : w.Remembers s x.cells) {t : Sheet}
    (hheld : ∀ row, (t.roster.find? row).isSome = (s.roster.find? row).isSome) :
    t.ChangesOnly ((x.sent w).settle t) x.cells (settling (x.sent w).settled) := by
  have hcounts (p : PersonId) (week : WeekKey) :
      (∃ e ∈ (x.sent w).settled, e.1.Touches p week) ↔ t.Counts x.cells p week := by
    rw [settled_sent]
    constructor
    · rintro ⟨e, he, hp, hweek⟩
      obtain ⟨q, hq, rfl⟩ := List.mem_map.mp he
      rw [hw.weeks_eq hq, mem_weeksOf] at hweek
      subst hp
      refine ⟨q.row.assignment, hweek, ?_⟩
      rw [hheld]
      exact (hw.mem_rowsOf hq).2
    · rintro ⟨id, hcell, hsome⟩
      rw [hheld] at hsome
      obtain ⟨q, hq, hrow⟩ := hw.exists_plan (mem_rowsOf.mpr ⟨week, hcell⟩) hsome
      refine ⟨(q, x.outcome q.row), List.mem_map_of_mem hq, congrArg RowKey.person hrow, ?_⟩
      rw [hw.weeks_eq hq, mem_weeksOf, hrow]
      exact hcell
  constructor
  case roster => exact SentWrite.roster_settle _ t
  case others =>
    intro row a _ week hcell
    apply Sheet.getElem?_settling_of_not_touched
    intro e he hrow hweek
    rw [settled_sent] at he
    obtain ⟨q, hq, rfl⟩ := List.mem_map.mp he
    rw [hw.weeks_eq hq, mem_weeksOf, hrow] at hweek
    exact hcell hweek
  case counted =>
    intro p week hp
    rw [SentWrite.get?_settle, if_pos ((hcounts p week).mpr hp)]
  case uncounted =>
    intro p week hp
    rw [SentWrite.get?_settle, if_neg]
    intro ht
    exact hp ((hcounts p week).mp ht)

end FixedWrite

end AssignmentGrid
