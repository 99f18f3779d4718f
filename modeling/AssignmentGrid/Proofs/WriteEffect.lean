import AssignmentGrid.Proofs.WritePlan

/-!
# What a write changes

Preparing and settling revise the rows and compute the totals of the touched pairs anew. Here both
are said for the roster as one revision, and for the totals pair by pair: a touched pair holds the
sum of the rows as they are in the end, every other pair what it held before.
-/

namespace AssignmentGrid

/-! ### Rows -/

/-- Changing the hours of one row after another is one revision. -/
theorem Roster.foldl_modifyHours {α : Type} (key : α → RowKey) (change : α → Hours → Hours)
    (xs : List α) (r : Roster) :
    xs.foldl (fun r x ↦ r.modifyHours (key x) (change x)) r =
      r.revise fun k h ↦ (xs.filter fun x ↦ key x = k).foldl (fun h x ↦ change x h) h := by
  induction xs generalizing r with
  | nil => exact (revise_id r).symm
  | cons x rest ih =>
    rw [List.foldl_cons, ih, modifyHours_eq_revise, revise_revise]
    congr 1
    ext k : 1
    by_cases h : key x = k
    · subst h
      simp
    · rw [Function.update_of_ne (Ne.symm h), List.filter_cons_of_neg (by simpa using h)]

/-- In a list without repeated keys, one element has the key of an element. -/
theorem filter_key_eq {α κ : Type} [DecidableEq κ] {key : α → κ} {xs : List α}
    (h : (xs.map key).Nodup) {x : α} (hx : x ∈ xs) : (xs.filter fun y ↦ key y = key x) = [x] := by
  induction xs with
  | nil => cases hx
  | cons y rest ih =>
    rw [List.map_cons, List.nodup_cons] at h
    rcases List.mem_cons.mp hx with rfl | hrest
    · rw [List.filter_cons_of_pos (by simp), List.filter_eq_nil_iff.mpr]
      intro z hz he
      exact h.1 (by simpa using ⟨z, hz, by simpa using he⟩)
    · have hne : key y ≠ key x := by
        intro he
        exact h.1 (he ▸ List.mem_map_of_mem hrest)
      rw [List.filter_cons_of_neg (by simpa using hne)]
      exact ih h.2 hrest

/-! ### Totals -/

/-- Computing totals anew changes the given pairs and no others. -/
theorem Totals.get?_recomputeAll (t : Totals) (p q : PersonId) (rows : List Assignment)
    (weeks : List WeekKey) (week : WeekKey) :
    (t.recomputeAll p rows weeks).get? q week =
      if p = q ∧ week ∈ weeks then some (weekSum rows week) else t.get? q week := by
  unfold recomputeAll
  induction weeks generalizing t with
  | nil => simp
  | cons first rest ih =>
    rw [List.foldl_cons, ih, recompute, get?_set]
    by_cases hp : p = q
    · by_cases hr : week ∈ rest
      · simp [hp, hr]
      · by_cases hf : first = week
        · simp [hp, hf]
        · simp [hp, hr, hf, Ne.symm hf]
    · simp [hp]

/-- Whether a row's part of a write concerns the total of a pair. -/
def RowPlan.Touches (p : RowPlan) (q : PersonId) (week : WeekKey) : Prop :=
  p.row.person = q ∧ week ∈ p.weeks

instance (p : RowPlan) (q : PersonId) (week : WeekKey) : Decidable (p.Touches q week) :=
  inferInstanceAs (Decidable (_ ∧ _))

namespace Sheet

@[simp] theorem roster_recompute (s : Sheet) (p : RowPlan) :
    (s.recompute p).roster = s.roster := rfl

theorem get?_recompute (s : Sheet) (p : RowPlan) (q : PersonId) (week : WeekKey) :
    (s.recompute p).totals.get? q week =
      if p.Touches q week then some (weekSum (s.roster.rowsFor q) week)
      else s.totals.get? q week := by
  unfold recompute
  rw [Totals.get?_recomputeAll]
  by_cases h : p.Touches q week
  · rw [if_pos h, if_pos (show _ ∧ _ from h), h.1]
  · rw [if_neg h, if_neg (show ¬ (_ ∧ _) from h)]

/-! ### Preparing -/

/-- The hours that plans put into the rows. -/
def overwriting (plans : List RowPlan) : RowKey → Hours → Hours :=
  fun row h ↦ (plans.filter fun p ↦ p.row = row).foldl (fun _ p ↦ p.hours) h

private theorem foldl_applyPlan (s : Sheet) (plans : List RowPlan) :
    plans.foldl applyPlan s = { s with roster := s.roster.revise (overwriting plans) } := by
  have hroster : plans.foldl applyPlan s =
      { s with roster :=
        plans.foldl (fun r p ↦ r.modifyHours p.row fun _ ↦ p.hours) s.roster } := by
    induction plans generalizing s with
    | nil => rfl
    | cons p rest ih => exact ih (s.applyPlan p)
  rw [hroster, Roster.foldl_modifyHours]
  rfl

private theorem roster_foldl_recompute (s : Sheet) (plans : List RowPlan) :
    (plans.foldl recompute s).roster = s.roster := by
  induction plans generalizing s with
  | nil => rfl
  | cons p rest ih => exact ih (s.recompute p)

private theorem get?_foldl_recompute (s : Sheet) (plans : List RowPlan) (q : PersonId)
    (week : WeekKey) :
    (plans.foldl recompute s).totals.get? q week =
      if ∃ p ∈ plans, p.Touches q week then some (weekSum (s.roster.rowsFor q) week)
      else s.totals.get? q week := by
  induction plans generalizing s with
  | nil => simp
  | cons p rest ih =>
    rw [List.foldl_cons, ih, get?_recompute, roster_recompute]
    by_cases hrest : ∃ p ∈ rest, p.Touches q week
    · simp [hrest]
    · by_cases hp : p.Touches q week
      · simp [hp]
      · simp [hp, hrest]

variable (s : Sheet) (cells : List Cell) (value : Float)

/-- Preparing revises the roster by its plans. -/
theorem roster_prepare :
    (s.prepare cells value).2.roster =
      s.roster.revise (overwriting (s.prepare cells value).1.plans) := by
  unfold prepare
  dsimp only
  rw [roster_foldl_recompute, foldl_applyPlan]

/-- After preparing the touched pairs hold the sums of the rows. -/
theorem get?_prepare (q : PersonId) (week : WeekKey) :
    (s.prepare cells value).2.totals.get? q week =
      if ∃ p ∈ (s.prepare cells value).1.plans, p.Touches q week then
        some (weekSum ((s.prepare cells value).2.roster.rowsFor q) week)
      else s.totals.get? q week := by
  rw [roster_prepare]
  unfold prepare
  dsimp only
  rw [get?_foldl_recompute, foldl_applyPlan]

/-- A row that is held has the value in the named cells and keeps all its other hours. -/
theorem getElem?_overwriting {row : RowKey} {a : Assignment} (ha : s.roster.find? row = some a)
    (week : WeekKey) :
    (overwriting (s.prepare cells value).1.plans row a.hours)[week]? =
      if (⟨row, week⟩ : Cell) ∈ cells then some value else a.hours[week]? := by
  unfold overwriting
  by_cases hrow : row ∈ rowsOf cells
  · have hp : RowPlan.ofRow cells value row a ∈ (s.prepare cells value).1.plans :=
      (mem_plans_prepare s cells value _).mpr ⟨a, hrow, ha, rfl⟩
    have hone := filter_key_eq (nodup_rows_plans s cells value) hp
    rw [show (RowPlan.ofRow cells value row a).row = row from rfl] at hone
    rw [hone, List.foldl_cons, List.foldl_nil, RowPlan.getElem?_hours_ofRow]
  · have hnone : (s.prepare cells value).1.plans.filter (fun p ↦ p.row = row) = [] := by
      rw [List.filter_eq_nil_iff]
      intro p hp hpr
      obtain ⟨b, hb, -, -⟩ := (mem_plans_prepare s cells value p).mp hp
      rw [of_decide_eq_true hpr] at hb
      exact hrow hb
    have hcell : (⟨row, week⟩ : Cell) ∉ cells := fun h ↦ hrow (mem_rowsOf.mpr ⟨week, h⟩)
    rw [hnone, List.foldl_nil, if_neg hcell]

/-- A pair is touched when a named cell of a held row counts for it. -/
theorem touched_prepare_iff (q : PersonId) (week : WeekKey) :
    (∃ p ∈ (s.prepare cells value).1.plans, p.Touches q week) ↔
      ∃ id, (⟨⟨q, id⟩, week⟩ : Cell) ∈ cells ∧ (s.roster.find? ⟨q, id⟩).isSome := by
  constructor
  · rintro ⟨p, hp, hq, hweek⟩
    obtain ⟨a, hrow, ha, hpa⟩ := (mem_plans_prepare s cells value p).mp hp
    rw [hpa, RowPlan.weeks_ofRow, mem_weeksOf] at hweek
    subst hq
    exact ⟨p.row.assignment, hweek, by rw [ha]; rfl⟩
  · rintro ⟨id, hcell, hheld⟩
    obtain ⟨a, ha⟩ := Option.isSome_iff_exists.mp hheld
    refine ⟨RowPlan.ofRow cells value ⟨q, id⟩ a, ?_, rfl, ?_⟩
    · exact (mem_plans_prepare s cells value _).mpr ⟨a, mem_rowsOf.mpr ⟨week, hcell⟩, ha, rfl⟩
    · rw [RowPlan.weeks_ofRow, mem_weeksOf]
      exact hcell

end Sheet

/-! ### Settling -/

/-- What settling does to the hours of the rows. -/
def settling (parts : List (RowPlan × RowOutcome)) : RowKey → Hours → Hours :=
  fun row h ↦
    (parts.filter fun e ↦ e.1.row = row).foldl (fun h e ↦ e.1.settleHours e.2 h) h

namespace Sheet

private theorem roster_foldl_settlePlan (s : Sheet) (parts : List (RowPlan × RowOutcome)) :
    (parts.foldl (fun s e ↦ s.settlePlan e.1 e.2) s).roster =
      s.roster.revise (settling parts) := by
  have hroster : (parts.foldl (fun s e ↦ s.settlePlan e.1 e.2) s).roster =
      parts.foldl (fun r e ↦ r.modifyHours e.1.row (e.1.settleHours e.2)) s.roster := by
    induction parts generalizing s with
    | nil => rfl
    | cons e rest ih => exact ih (s.settlePlan e.1 e.2)
  rw [hroster, Roster.foldl_modifyHours]
  rfl

/-- Settling keeps the entry of a week that none of its parts for the row has written. -/
theorem getElem?_settling_of_not_touched {parts : List (RowPlan × RowOutcome)} {row : RowKey}
    {week : WeekKey} (h : ∀ e ∈ parts, e.1.row = row → week ∉ e.1.weeks) (hours : Hours) :
    (settling parts row hours)[week]? = hours[week]? := by
  unfold settling
  induction parts generalizing hours with
  | nil => rfl
  | cons e rest ih =>
    have hrest : ∀ e ∈ rest, e.1.row = row → week ∉ e.1.weeks :=
      fun e he ↦ h e (List.mem_cons_of_mem _ he)
    by_cases hrow : e.1.row = row
    · rw [List.filter_cons_of_pos (by simpa using hrow), List.foldl_cons, ih hrest,
        RowPlan.getElem?_settleHours_of_notMem _ _ _ (h e List.mem_cons_self hrow)]
    · rw [List.filter_cons_of_neg (by simpa using hrow), ih hrest]

private theorem weekSum_settling {parts : List (RowPlan × RowOutcome)} {q : PersonId}
    {week : WeekKey} (h : ¬ ∃ e ∈ parts, e.1.Touches q week) (r : Roster) :
    weekSum ((r.revise (settling parts)).rowsFor q) week = weekSum (r.rowsFor q) week := by
  apply Roster.weekSum_revise_of_amount
  intro id a _
  apply getElem?_settling_of_not_touched
  intro e he hrow hweek
  exact h ⟨e, he, congrArg RowKey.person hrow, hweek⟩

private theorem get?_foldl_settlePlan (s : Sheet) (parts : List (RowPlan × RowOutcome))
    (q : PersonId) (week : WeekKey) :
    (parts.foldl (fun s e ↦ s.settlePlan e.1 e.2) s).totals.get? q week =
      if ∃ e ∈ parts, e.1.Touches q week then
        some (weekSum ((s.roster.revise (settling parts)).rowsFor q) week)
      else s.totals.get? q week := by
  induction parts generalizing s with
  | nil => simp
  | cons e rest ih =>
    have hroster := roster_foldl_settlePlan s (e :: rest)
    rw [List.foldl_cons, roster_foldl_settlePlan] at hroster
    rw [List.foldl_cons, ih, hroster]
    by_cases hrest : ∃ e ∈ rest, e.1.Touches q week
    · simp [hrest]
    · rw [if_neg hrest]
      by_cases he : e.1.Touches q week
      · -- the parts behind touch other pairs, so that the sum stays as `e` has left it
        rw [if_pos ⟨e, List.mem_cons_self, he⟩, ← hroster, weekSum_settling hrest]
        unfold settlePlan
        rw [get?_recompute, if_pos he, roster_recompute]
      · have hcons : ¬ ∃ e' ∈ e :: rest, e'.1.Touches q week := by
          rintro ⟨e', he', ht⟩
          rcases List.mem_cons.mp he' with rfl | hmem
          · exact he ht
          · exact hrest ⟨e', hmem, ht⟩
        rw [if_neg hcons]
        unfold settlePlan
        rw [get?_recompute, if_neg he]

end Sheet

namespace SentWrite

/-- Settling revises the roster by the outcomes. -/
theorem roster_settle (w : SentWrite) (s : Sheet) :
    (w.settle s).roster = s.roster.revise (settling w.settled) :=
  Sheet.roster_foldl_settlePlan s w.settled

/-- After settling the touched pairs hold the sums of the rows. -/
theorem get?_settle (w : SentWrite) (s : Sheet) (q : PersonId) (week : WeekKey) :
    (w.settle s).totals.get? q week =
      if ∃ e ∈ w.settled, e.1.Touches q week then
        some (weekSum ((w.settle s).roster.rowsFor q) week)
      else s.totals.get? q week := by
  rw [roster_settle]
  exact Sheet.get?_foldl_settlePlan s w.settled q week

/-- The sum of a pair that settling does not touch stays. -/
theorem weekSum_settle_of_not_touched {w : SentWrite} {q : PersonId} {week : WeekKey}
    (h : ¬ ∃ e ∈ w.settled, e.1.Touches q week) (s : Sheet) :
    weekSum ((w.settle s).roster.rowsFor q) week = weekSum (s.roster.rowsFor q) week := by
  rw [roster_settle]
  exact Sheet.weekSum_settling h s.roster

end SentWrite

end AssignmentGrid
