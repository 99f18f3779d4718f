import Mathlib.Data.List.Induction
import AssignmentGrid.Proofs.Interleaving

/-!
# Independent writes

Writes with pairwise disjoint cells lead to the same rows, totals and reports in every order of
their steps. The invariant that carries this says what each cell holds while writes are under way: a
cell of a write depends on how far this one write has come, every other cell is as it was.
Specification `SPEC_FULL.md:141–142,191–193`.
-/

namespace AssignmentGrid

variable {n : Nat} (writes : Fin n → FixedWrite)

/-- What a cell of a write holds after some steps. -/
def FixedWrite.entryAfter (x : FixedWrite) (done : List (Stage n)) (i : Fin n) (row : RowKey)
    (week : WeekKey) (initial : Option Float) : Option Float :=
  if .settle i ∈ done then (x.outcome row).entry x.value week initial
  else if .prepare i ∈ done then some x.value
  else initial

/-- A step of another write is nothing to a cell of this one. -/
theorem FixedWrite.entryAfter_append_of_ne (x : FixedWrite) (done : List (Stage n)) {y : Stage n}
    {i : Fin n} (hy : y.write ≠ i) (row : RowKey) (week : WeekKey) (initial : Option Float) :
    x.entryAfter (done ++ [y]) i row week initial = x.entryAfter done i row week initial := by
  have hmem {z : Stage n} (hz : z.write = i) : z ∈ done ++ [y] ↔ z ∈ done := by
    rw [List.mem_append, List.mem_singleton, or_iff_left]
    rintro rfl
    exact hy hz
  unfold entryAfter
  simp only [hmem (z := .settle i) rfl, hmem (z := .prepare i) rfl]

/-- Whether a write that has been prepared counts for a pair. -/
def TouchedAfter (s : Sheet) (done : List (Stage n)) (p : PersonId) (week : WeekKey) : Prop :=
  ∃ i, .prepare i ∈ done ∧ s.Counts (writes i).cells p week

/-- The state of writes that are under way, after the steps `done` from the sheet `s`. -/
structure Underway (s : Sheet) (done : List (Stage n)) (f : Flight n) : Prop where
  rows : ∃ g : RowKey → Hours → Hours, f.sheet.roster = s.roster.revise g ∧
    ∀ row a, s.roster.find? row = some a → ∀ week,
      (∀ i, (⟨row, week⟩ : Cell) ∈ (writes i).cells →
        (g row a.hours)[week]? = (writes i).entryAfter done i row week a.hours[week]?) ∧
      ((∀ i, (⟨row, week⟩ : Cell) ∉ (writes i).cells) →
        (g row a.hours)[week]? = a.hours[week]?)
  touched : ∀ p week, TouchedAfter writes s done p week →
    f.sheet.totals.get? p week = some (weekSum (f.sheet.roster.rowsFor p) week)
  untouched : ∀ p week, ¬ TouchedAfter writes s done p week →
    f.sheet.totals.get? p week = s.totals.get? p week
  prepared : ∀ i, .prepare i ∈ done →
    ∃ w, f.prepared? i = some w ∧ w.Remembers s (writes i).cells
  report : ∀ i, .settle i ∈ done → f.report? i = some ((writes i).reportOn s)

namespace Underway

variable {writes} {s : Sheet} {done : List (Stage n)} {f : Flight n} {i : Fin n}

/-- A row is found while writes are under way exactly if it was found before. -/
theorem isSome_find? (h : Underway writes s done f) (row : RowKey) :
    (f.sheet.roster.find? row).isSome = (s.roster.find? row).isSome := by
  obtain ⟨g, hg, -⟩ := h.rows
  rw [hg, Roster.find?_revise, Option.isSome_map]

/-- Cells count for the same pairs while writes are under way. -/
theorem counts_iff (h : Underway writes s done f) (cells : List Cell) (p : PersonId)
    (week : WeekKey) : f.sheet.Counts cells p week ↔ s.Counts cells p week := by
  unfold Sheet.Counts
  simp only [h.isSome_find?]

/-- The invariant holds before the first step. -/
theorem start (writes : Fin n → FixedWrite) (s : Sheet) : Underway writes s [] { sheet := s } where
  rows := by
    refine ⟨fun _ h ↦ h, (Roster.revise_id s.roster).symm, ?_⟩
    intro row a _ week
    exact ⟨fun _ _ ↦ rfl, fun _ ↦ rfl⟩
  touched := by
    rintro p week ⟨i, hi, -⟩
    cases hi
  untouched _ _ _ := rfl
  prepared := by
    intro i hi
    cases hi
  report := by
    intro i hi
    cases hi

/-- After a step of a write, cells count for the pairs that were touched and for its own. -/
private theorem touchedAfter_append {x : Stage n} (hx : x.write = i)
    (hprepared : .prepare i ∈ done ++ [x]) (p : PersonId) (week : WeekKey) :
    TouchedAfter writes s (done ++ [x]) p week ↔
      s.Counts (writes i).cells p week ∨ TouchedAfter writes s done p week := by
  constructor
  · rintro ⟨j, hj, hcount⟩
    rcases List.mem_append.mp hj with hj | hj
    · exact .inr ⟨j, hj, hcount⟩
    · have hji : j = i := by
        rw [← hx, ← List.mem_singleton.mp hj]
        rfl
      exact .inl (hji ▸ hcount)
  · rintro (hcount | ⟨j, hj, hcount⟩)
    · exact ⟨i, hprepared, hcount⟩
    · exact ⟨j, List.mem_append_left _ hj, hcount⟩

/-- A step that changes only the cells of its write, and these in the way that the invariant
expects, keeps the invariant for rows and totals. -/
private theorem advance
    (hdisjoint : ∀ i j, i ≠ j → ∀ c ∈ (writes i).cells, c ∉ (writes j).cells)
    (h : Underway writes s done f) {x : Stage n} (hx : x.write = i)
    (hprepared : .prepare i ∈ done ++ [x]) {t : Flight n} {k : RowKey → Hours → Hours}
    (hchanges : f.sheet.ChangesOnly t.sheet (writes i).cells k)
    (hown : ∀ row a hours, s.roster.find? row = some a →
      f.sheet.roster.find? row = some { a with hours } →
      (∀ week, (⟨row, week⟩ : Cell) ∈ (writes i).cells →
        hours[week]? = (writes i).entryAfter done i row week a.hours[week]?) →
      ∀ week, (⟨row, week⟩ : Cell) ∈ (writes i).cells → (k row hours)[week]? =
        (writes i).entryAfter (done ++ [x]) i row week a.hours[week]?)
    (hplans : ∀ j, .prepare j ∈ done ++ [x] →
      ∃ w, t.prepared? j = some w ∧ w.Remembers s (writes j).cells)
    (hreport : ∀ j, .settle j ∈ done ++ [x] → t.report? j = some ((writes j).reportOn s)) :
    Underway writes s (done ++ [x]) t := by
  obtain ⟨g, hg, hcells⟩ := h.rows
  have hfound {row : RowKey} {a : Assignment} (ha : s.roster.find? row = some a) :
      f.sheet.roster.find? row = some { a with hours := g row a.hours } := by
    rw [hg, Roster.find?_revise, ha]
    rfl
  constructor
  case prepared => exact hplans
  case report => exact hreport
  case rows =>
    refine ⟨fun row h ↦ k row (g row h), ?_, ?_⟩
    · rw [hchanges.roster, hg, Roster.revise_revise]
    · intro row a ha week
      constructor
      · intro j hj
        by_cases hij : i = j
        · subst hij
          exact hown row a _ ha (hfound ha) (fun week ↦ (hcells row a ha week).1 i) week hj
        · have hnot := hdisjoint j i (Ne.symm hij) _ hj
          rw [hchanges.others row _ (hfound ha) week hnot, (hcells row a ha week).1 j hj,
            FixedWrite.entryAfter_append_of_ne _ _ (hx ▸ hij)]
      · intro hnone
        rw [hchanges.others row _ (hfound ha) week (hnone i)]
        exact (hcells row a ha week).2 hnone
  case touched =>
    intro p week ht
    by_cases hcount : s.Counts (writes i).cells p week
    · exact hchanges.counted p week ((h.counts_iff _ p week).mpr hcount)
    · have hnot : ¬ f.sheet.Counts (writes i).cells p week :=
        fun hp ↦ hcount ((h.counts_iff _ p week).mp hp)
      have hbefore := ((touchedAfter_append hx hprepared p week).mp ht).resolve_left hcount
      rw [hchanges.uncounted p week hnot, hchanges.weekSum_eq hnot, h.touched p week hbefore]
  case untouched =>
    intro p week ht
    rw [touchedAfter_append hx hprepared, not_or] at ht
    have hnot : ¬ f.sheet.Counts (writes i).cells p week :=
      fun hp ↦ ht.1 ((h.counts_iff _ p week).mp hp)
    rw [hchanges.uncounted p week hnot, h.untouched p week ht.2]

/-- A write that is prepared while others are under way remembers what its cells held at first. -/
private theorem remembers_prepare (h : Underway writes s done f)
    (hnew : ∀ x ∈ done, x.write ≠ i) :
    (f.sheet.prepare (writes i).cells (writes i).value).1.Remembers s (writes i).cells := by
  obtain ⟨g, hg, hcells⟩ := h.rows
  constructor
  case rows =>
    rw [f.sheet.rows_plans_prepare]
    simp only [h.isSome_find?]
  case skipped =>
    have hnone (row : RowKey) :
        (f.sheet.roster.find? row).isNone = (s.roster.find? row).isNone := by
      rw [← Option.not_isSome, ← Option.not_isSome, h.isSome_find?]
    rw [f.sheet.skipped_prepare]
    simp only [hnone]
  case former =>
    intro p hp a ha
    obtain ⟨a', -, ha', hpa⟩ := (f.sheet.mem_plans_prepare _ _ p).mp hp
    rw [hg, Roster.find?_revise, ha] at ha'
    obtain rfl := Option.some.inj ha'
    rw [hpa]
    apply List.map_congr_left
    intro week hweek
    have hentry := (hcells p.row a ha week).1 i (mem_weeksOf.mp hweek)
    unfold FixedWrite.entryAfter at hentry
    rw [if_neg (fun hi ↦ hnew _ hi rfl), if_neg (fun hi ↦ hnew _ hi rfl)] at hentry
    exact congrArg (Prod.mk week) hentry

/-- Preparing one more write keeps the invariant. -/
theorem prepare (hdisjoint : ∀ i j, i ≠ j → ∀ c ∈ (writes i).cells, c ∉ (writes j).cells)
    (h : Underway writes s done f) (hnew : ∀ x ∈ done, x.write ≠ i) :
    Underway writes s (done ++ [.prepare i]) (f.step writes (.prepare i)) := by
  have hnotSettled : Stage.settle i ∉ done ++ [.prepare i] := by
    rw [List.mem_append, List.mem_singleton, not_or]
    exact ⟨fun hi ↦ hnew _ hi rfl, by simp⟩
  have hprepared : Stage.prepare i ∈ done ++ [.prepare i] := by simp
  have hwrite : (Stage.prepare i).write = i := rfl
  apply advance hdisjoint h hwrite hprepared (f.sheet.changesOnly_prepare _ _)
  · intro row a hours _ hfound _ week hcell
    unfold FixedWrite.entryAfter
    rw [if_neg hnotSettled, if_pos hprepared]
    have hover := f.sheet.getElem?_overwriting (writes i).cells (writes i).value hfound week
    rwa [if_pos hcell] at hover
  · intro j hj
    by_cases hij : j = i
    · subst hij
      exact ⟨_, Function.update_self .., h.remembers_prepare hnew⟩
    · have hdone : .prepare j ∈ done := by simpa [hij] using hj
      obtain ⟨w, hw, hremembers⟩ := h.prepared j hdone
      exact ⟨w, (Function.update_of_ne hij ..).trans hw, hremembers⟩
  · intro j hj
    have hdone : .settle j ∈ done := by simpa using hj
    exact h.report j hdone

/-- Settling a write that was prepared keeps the invariant. -/
theorem settle (hdisjoint : ∀ i j, i ≠ j → ∀ c ∈ (writes i).cells, c ∉ (writes j).cells)
    (h : Underway writes s done f) (hprepared : .prepare i ∈ done) (hnot : .settle i ∉ done) :
    Underway writes s (done ++ [.settle i]) (f.step writes (.settle i)) := by
  obtain ⟨w, hw, hremembers⟩ := h.prepared i hprepared
  have hchanges := FixedWrite.changesOnly_settle hremembers h.isSome_find?
  have hstep : f.step writes (.settle i) =
      { f with
        sheet := ((writes i).sent w).settle f.sheet
        report? := Function.update f.report? i (some ((writes i).sent w).report) } := by
    simp only [Flight.step, hw]
  have hwrite : (Stage.settle i).write = i := rfl
  rw [hstep]
  apply advance hdisjoint h hwrite (List.mem_append_left _ hprepared) hchanges
  · intro row a hours ha _ hhours week hcell
    rw [FixedWrite.getElem?_settling_sent hremembers ha _ hcell]
    · unfold FixedWrite.entryAfter
      rw [if_pos (by simp)]
    · intro week hcell
      rw [hhours week hcell]
      unfold FixedWrite.entryAfter
      rw [if_neg hnot, if_pos hprepared]
  · intro j hj
    apply h.prepared
    simpa using hj
  · intro j hj
    by_cases hij : j = i
    · subst hij
      dsimp only
      rw [Function.update_self, FixedWrite.report_sent hremembers]
    · have hdone : .settle j ∈ done := by simpa [hij] using hj
      exact (Function.update_of_ne hij ..).trans (h.report j hdone)

/-- The invariant holds after each part of an interleaving. -/
theorem of_prefix (hdisjoint : ∀ i j, i ≠ j → ∀ c ∈ (writes i).cells, c ∉ (writes j).cells)
    (s : Sheet) {pre post : List (Stage n)} (horder : IsInterleaving (pre ++ post)) :
    Underway writes s pre (Flight.run writes pre s) := by
  induction pre using List.reverseRecOn generalizing post with
  | nil => exact start writes s
  | append_singleton pre x ih =>
    rw [List.append_assoc] at horder
    have hbefore := ih horder
    rw [Flight.run_append_singleton]
    cases x with
    | prepare i => exact prepare hdisjoint hbefore horder.before_prepare
    | settle i =>
      have hsettle := horder.before_settle
      exact settle hdisjoint hbefore hsettle.1 hsettle.2

/-- The invariant holds after an interleaving. -/
theorem of_interleaving
    (hdisjoint : ∀ i j, i ≠ j → ∀ c ∈ (writes i).cells, c ∉ (writes j).cells) (s : Sheet)
    {stages : List (Stage n)} (horder : IsInterleaving stages) :
    Underway writes s stages (Flight.run writes stages s) := by
  rw [← List.append_nil stages] at horder
  exact of_prefix hdisjoint s horder

/-- After all steps, only the writes decide about the rows. -/
theorem rowsFor_eq {done' : List (Stage n)} {f' : Flight n} (h : Underway writes s done f)
    (h' : Underway writes s done' f') (hdone : ∀ i, .settle i ∈ done)
    (hdone' : ∀ i, .settle i ∈ done') (p : PersonId) :
    f.sheet.roster.rowsFor p = f'.sheet.roster.rowsFor p := by
  obtain ⟨g, hg, hcells⟩ := h.rows
  obtain ⟨g', hg', hcells'⟩ := h'.rows
  rw [hg, hg']
  apply Roster.rowsFor_revise_congr
  intro id a ha
  apply Hours.ext_getElem?
  intro week
  by_cases hcell : ∃ i, (⟨⟨p, id⟩, week⟩ : Cell) ∈ (writes i).cells
  · obtain ⟨i, hi⟩ := hcell
    rw [(hcells ⟨p, id⟩ a ha week).1 i hi, (hcells' ⟨p, id⟩ a ha week).1 i hi]
    unfold FixedWrite.entryAfter
    rw [if_pos (hdone i), if_pos (hdone' i)]
  · rw [not_exists] at hcell
    rw [(hcells ⟨p, id⟩ a ha week).2 hcell, (hcells' ⟨p, id⟩ a ha week).2 hcell]

/-- After all steps, only the writes decide about the totals. -/
theorem get?_eq {done' : List (Stage n)} {f' : Flight n} (h : Underway writes s done f)
    (h' : Underway writes s done' f') (hdone : ∀ i, .prepare i ∈ done ∧ .settle i ∈ done)
    (hdone' : ∀ i, .prepare i ∈ done' ∧ .settle i ∈ done') (p : PersonId) (week : WeekKey) :
    f.sheet.totals.get? p week = f'.sheet.totals.get? p week := by
  by_cases ht : TouchedAfter writes s done p week
  · have ht' : TouchedAfter writes s done' p week := by
      obtain ⟨i, -, hcount⟩ := ht
      exact ⟨i, (hdone' i).1, hcount⟩
    have hrows := rowsFor_eq h h' (fun i ↦ (hdone i).2) (fun i ↦ (hdone' i).2) p
    rw [h.touched p week ht, h'.touched p week ht', hrows]
  · have ht' : ¬ TouchedAfter writes s done' p week := by
      rintro ⟨i, -, hcount⟩
      exact ht ⟨i, (hdone i).1, hcount⟩
    rw [h.untouched p week ht, h'.untouched p week ht']

/-- A refused write that was settled has put its cells back. -/
theorem entry?_of_failed (h : Underway writes s done f) (hdone : .settle i ∈ done) {c : Cell}
    (hc : c ∈ (writes i).cells) {reason : String}
    (hfailed : (writes i).outcome c.row = .failed reason) :
    f.sheet.roster.entry? c = s.roster.entry? c := by
  obtain ⟨g, hg, hcells⟩ := h.rows
  unfold Roster.entry?
  rw [hg, Roster.find?_revise, Option.map_map]
  cases ha : s.roster.find? c.row with
  | none => rfl
  | some a =>
    have hentry := (hcells c.row a ha c.week).1 i hc
    unfold FixedWrite.entryAfter at hentry
    rw [if_pos hdone, hfailed] at hentry
    exact congrArg some hentry

end Underway

/-- In a state of writes under way, a step of a write leaves the cells of all others alone. -/
theorem entry?_step {writes : Fin n → FixedWrite} {s : Sheet} {done : List (Stage n)}
    {f : Flight n} (h : Underway writes s done f) (x : Stage n)
    (hx : ∀ i, x = .settle i → .prepare i ∈ done) {c : Cell}
    (hc : c ∉ (writes x.write).cells) :
    (f.step writes x).sheet.roster.entry? c = f.sheet.roster.entry? c := by
  cases x with
  | prepare i => exact (f.sheet.changesOnly_prepare _ _).entry?_eq hc
  | settle i =>
    obtain ⟨w, hw, hremembers⟩ := h.prepared i (hx i rfl)
    have hchanges := FixedWrite.changesOnly_settle hremembers h.isSome_find?
    simp only [Flight.step, hw]
    exact hchanges.entry?_eq hc

/-- Writes with pairwise disjoint cells, each with fixed outcomes of its rows, end in every order
of their steps as they do one after the other. -/
theorem independent_writes_commute
    (hdisjoint : ∀ i j, i ≠ j → ∀ c ∈ (writes i).cells, c ∉ (writes j).cells) (s : Sheet)
    {stages : List (Stage n)} (horder : IsInterleaving stages) :
    let final := Flight.run writes stages s
    let sequential := Flight.run writes (inTurn n) s
    (∀ p, final.sheet.roster.rowsFor p = sequential.sheet.roster.rowsFor p) ∧
    (∀ p week, final.sheet.totals.get? p week = sequential.sheet.totals.get? p week) ∧
    (∀ i, ∃ report, final.report? i = some report ∧ sequential.report? i = some report) ∧
    -- a row that was refused has its former hours in the cells of the write,
    (∀ i, ∀ c ∈ (writes i).cells, ∀ reason, (writes i).outcome c.row = .failed reason →
      final.sheet.roster.entry? c = s.roster.entry? c) ∧
    -- and no step of a write changes any other cell.
    (∀ pre x post, stages = pre ++ x :: post → ∀ c ∉ (writes x.write).cells,
      (Flight.run writes (pre ++ [x]) s).sheet.roster.entry? c =
        (Flight.run writes pre s).sheet.roster.entry? c) := by
  intro final sequential
  have hfinal : Underway writes s stages final := Underway.of_interleaving hdisjoint s horder
  have hsequential : Underway writes s (inTurn n) sequential :=
    Underway.of_interleaving hdisjoint s (isInterleaving_inTurn n)
  have hdone := horder.mem
  have hdone' := (isInterleaving_inTurn n).mem
  refine ⟨?_, ?_, ?_, ?_, ?_⟩
  · exact hfinal.rowsFor_eq hsequential (fun i ↦ (hdone i).2) (fun i ↦ (hdone' i).2)
  · exact hfinal.get?_eq hsequential hdone hdone'
  · intro i
    exact ⟨_, hfinal.report i (hdone i).2, hsequential.report i (hdone' i).2⟩
  · intro i c hc reason hfailed
    exact hfinal.entry?_of_failed (hdone i).2 hc hfailed
  · rintro pre x post rfl c hc
    have hpre := Underway.of_prefix hdisjoint s horder
    unfold Flight.run at hpre ⊢
    rw [List.foldl_append, List.foldl_cons, List.foldl_nil]
    apply entry?_step hpre x _ hc
    rintro i rfl
    exact horder.before_settle.1

/-- Two writes to one row, of which the first is refused while the second is under way. -/
theorem independent_writes_commute_in_one_row :
    let row : Assignment := { id := 42, person := 7, project := 3 }
    let writes : Fin 2 → FixedWrite := fun i ↦
      if i = 0 then ⟨[⟨row.row, ⟨"2024-01-01"⟩⟩], 4, fun _ ↦ .failed "locked"⟩
      else ⟨[⟨row.row, ⟨"2024-01-08"⟩⟩], 5, fun _ ↦ .committed none⟩
    let s : Sheet := ⟨Roster.empty.push row, .empty⟩
    let stages : List (Stage 2) := [.prepare 0, .prepare 1, .settle 0, .settle 1]
    ∀ p, (Flight.run writes stages s).sheet.roster.rowsFor p =
      (Flight.run writes (inTurn 2) s).sheet.roster.rowsFor p := by
  intro row writes s stages
  have hdisjoint : ∀ i j, i ≠ j → ∀ c ∈ (writes i).cells, c ∉ (writes j).cells := by
    decide
  have horder : IsInterleaving stages := by
    unfold IsInterleaving
    decide
  exact (independent_writes_commute writes hdisjoint s horder).1

end AssignmentGrid
