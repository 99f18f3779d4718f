import AssignmentGrid.Proofs.Consistency
import AssignmentGrid.Proofs.RowServer
import AssignmentGrid.Proofs.Traffic

/-!
# What the server keeps in the end

A request carries all hours of a row as they were right after its write was prepared. The server
therefore ends with a row as the write taken last has seen it: values of other writes that were
under way then are stored even if the server refuses those, and values of writes prepared later are
not. The grid and the server agree on a row when neither has happened to it. Specification
`SPEC_FULL.md:46–49,191–193`.
-/

namespace AssignmentGrid

variable {σ : Type} {n : Nat}

/-- Whether a write was prepared after all others that are taken for a row, and while none was
under way that is refused for the row. -/
def Traffic.IsAbreast (t : Traffic σ n) (writes : Fin n → CellWrite) (legs : List (Leg n))
    (row : RowKey) (i : Fin n) : Prop :=
  ∀ j, j ≠ i → row ∈ rowsOf (writes j).cells →
    if t.takes row j then .prepare j ∈ stepsBefore legs (.prepare i)
    else .prepare j ∈ stepsBefore legs (.prepare i) → .settle j ∈ stepsBefore legs (.prepare i)

instance (t : Traffic σ n) (writes : Fin n → CellWrite) (legs : List (Leg n)) (row : RowKey)
    (i : Fin n) : Decidable (t.IsAbreast writes legs row i) :=
  inferInstanceAs (Decidable (∀ _, _ → _ → ite _ _ _))

/-- Preparing a write gives a row the hours of its plan; for a row that is not named these are the
hours that it has. -/
theorem Sheet.find?_prepare {s : Sheet} {cells : List Cell} {value : Float} {row : RowKey}
    {a : Assignment} (ha : s.roster.find? row = some a) :
    (s.prepare cells value).2.roster.find? row =
      some { a with hours := (RowPlan.ofRow cells value row a).hours } := by
  have hhours : Sheet.overwriting (s.prepare cells value).1.plans row a.hours =
      (RowPlan.ofRow cells value row a).hours := by
    apply Hours.ext_getElem?
    intro week
    rw [s.getElem?_overwriting cells value ha, RowPlan.getElem?_hours_ofRow]
  rw [roster_prepare, Roster.find?_revise, ha, ← hhours]
  rfl

namespace Traffic

variable {b : Backend σ} {stored : σ → Stored} {writes : Fin n → CellWrite}
  {legs : List (Leg n)}

/-! ### Outcomes -/

/-- A write that is taken for a row has such an outcome. -/
theorem exists_outcome?_of_takes {t : Traffic σ n} {row : RowKey} {i : Fin n}
    (h : t.takes row i = true) : ∃ stored?, t.outcome? i row = some (.committed stored?) := by
  unfold takes at h
  split at h
  · next stored? hout => exact ⟨stored?, hout⟩
  · cases h

/-- The write that is taken last for a row is taken for it. -/
theorem takes_of_lastTaken? {t : Traffic σ n} {row : RowKey} {i : Fin n}
    (h : t.lastTaken? legs row = some i) : t.takes row i = true :=
  (List.mem_filter.mp (List.mem_of_getLast? h)).2

/-- If no write is the last one to be taken for a row, none is taken. -/
theorem not_takes_of_lastTaken? {t : Traffic σ n} (horder : IsSchedule legs) {row : RowKey}
    (h : t.lastTaken? legs row = none) (i : Fin n) : t.takes row i = false := by
  have hnone := List.filter_eq_nil_iff.mp (List.getLast?_eq_none_iff.mp h) i
  have hsent : i ∈ legs.filterMap Leg.sent? :=
    List.mem_filterMap.mpr ⟨.send i, (horder.mem i).2.1, rfl⟩
  simpa using hnone hsent

/-- A write that is not taken for a row leaves its cells in the end as they were at first. -/
theorem entry_of_not_takes (writes : Fin n → CellWrite) {t : Traffic σ n} {row : RowKey}
    {i : Fin n} (h : t.takes row i = false) (value : Float) (week : WeekKey)
    (former : Option Float) :
    ((t.fixed writes i).outcome row).entry value week former = former := by
  unfold takes at h
  simp only [fixed]
  cases hout : t.outcome? i row with
  | none => rfl
  | some outcome =>
    cases outcome with
    | committed stored? => simp [hout] at h
    | failed reason => rfl

/-! ### Rows under way -/

section

variable (b) (s : Sheet) (state : σ)
  (hdisjoint : ∀ i j, i ≠ j → ∀ c ∈ (writes i).cells, c ∉ (writes j).cells)
  (horder : IsSchedule legs)

include hdisjoint horder

/-- The state of the rows after a part of a schedule. -/
theorem underway {pre post : List (Leg n)} (hsplit : legs = pre ++ post) :
    Underway ((run b writes legs s state).fixed writes) s (stagesOf pre)
      (Flight.run ((run b writes legs s state).fixed writes) (stagesOf pre) s) := by
  have hstages : stagesOf legs = stagesOf pre ++ stagesOf post := by
    rw [hsplit]
    exact List.filterMap_append
  have hinterleaving := horder.isInterleaving
  rw [hstages] at hinterleaving
  exact Underway.of_prefix hdisjoint s hinterleaving

/-- The same rows are found after a part of a schedule. -/
theorem isSome_find?_run {pre post : List (Leg n)} (hsplit : legs = pre ++ post) (row : RowKey) :
    ((run b writes pre s state).sheet.roster.find? row).isSome = (s.roster.find? row).isSome := by
  rw [(run_eq_flight b writes s state horder hsplit).1]
  exact (underway b s state hdisjoint horder hsplit).isSome_find? row

/-- A row that is found has at most other hours after a part of a schedule: the named cells are as
far as their writes have come. -/
theorem find?_run {pre post : List (Leg n)} (hsplit : legs = pre ++ post) {row : RowKey}
    {a : Assignment} (ha : s.roster.find? row = some a) :
    ∃ hours, (run b writes pre s state).sheet.roster.find? row = some { a with hours } ∧
      ∀ week,
        (∀ i, (⟨row, week⟩ : Cell) ∈ (writes i).cells →
          hours[week]? = ((run b writes legs s state).fixed writes i).entryAfter (stagesOf pre) i
            row week a.hours[week]?) ∧
        ((∀ i, (⟨row, week⟩ : Cell) ∉ (writes i).cells) → hours[week]? = a.hours[week]?) := by
  obtain ⟨g, hg, hcells⟩ := (underway b s state hdisjoint horder hsplit).rows
  refine ⟨g row a.hours, ?_, hcells row a ha⟩
  rw [(run_eq_flight b writes s state horder hsplit).1, hg, Roster.find?_revise, ha]
  rfl

/-- If no write is taken for a row, the row ends as it was at first. -/
theorem find?_run_of_not_takes {row : RowKey} {a : Assignment}
    (ha : s.roster.find? row = some a)
    (hnone : (run b writes legs s state).lastTaken? legs row = none) :
    (run b writes legs s state).sheet.roster.find? row = some a := by
  obtain ⟨hours, hfinal, hcells⟩ :=
    find?_run b s state hdisjoint horder (List.append_nil legs).symm ha
  have hsame : hours = a.hours := by
    apply Hours.ext_getElem?
    intro week
    by_cases hcell : ∃ j, (⟨row, week⟩ : Cell) ∈ (writes j).cells
    · obtain ⟨j, hj⟩ := hcell
      have hsettled : .settle j ∈ stagesOf legs := mem_stagesOf.mpr (horder.mem j).2.2
      rw [(hcells week).1 j hj, FixedWrite.entryAfter, if_pos hsettled]
      exact entry_of_not_takes writes (not_takes_of_lastTaken? horder hnone j) _ _ _
    · rw [not_exists] at hcell
      exact (hcells week).2 hcell
  rw [hfinal, hsame]

/-! ### Sending in a schedule -/

/-- A row is sent as it is right after the preparation of its write. -/
theorem exists_planned (i : Fin n) {row : RowKey} {a : Assignment}
    (ha : s.roster.find? row = some a) :
    ∃ hours,
      (run b writes (stepsBefore legs (.prepare i) ++ [.prepare i]) s state).sheet.roster.find?
        row = some { a with hours } ∧
      (∀ p ∈ (planned b writes legs s state i).plans, p.row = row → p.hours = hours) ∧
      ∀ week, (⟨row, week⟩ : Cell) ∈ (writes i).cells → hours[week]? = some (writes i).value := by
  obtain ⟨post, hsplit⟩ := exists_eq_stepsBefore_append (horder.mem i).1
  obtain ⟨before, hbefore, -⟩ := find?_run b s state hdisjoint horder hsplit ha
  refine ⟨(RowPlan.ofRow (writes i).cells (writes i).value row { a with hours := before }).hours,
    ?_, ?_, ?_⟩
  · rw [run_append_singleton]
    exact Sheet.find?_prepare hbefore
  · rintro p hp rfl
    obtain ⟨a', -, ha', hpa⟩ := (Sheet.mem_plans_prepare _ _ _ p).mp hp
    rw [hbefore] at ha'
    obtain rfl := Option.some.inj ha'
    exact congrArg RowPlan.hours hpa
  · intro week hcell
    rw [RowPlan.getElem?_hours_ofRow, if_pos hcell]

/-- A plan for the assignment of a row that is found is a plan for this row. -/
theorem row_of_mem_planned {i : Fin n} {p : RowPlan}
    (hp : p ∈ (planned b writes legs s state i).plans) {row : RowKey} {a : Assignment}
    (ha : s.roster.find? row = some a) (hid : p.row.assignment = row.assignment) :
    p.row = row := by
  obtain ⟨post, hsplit⟩ := exists_eq_stepsBefore_append (horder.mem i).1
  obtain ⟨found, -, hfound, -⟩ := (Sheet.mem_plans_prepare _ _ _ p).mp hp
  have hsome := isSome_find?_run b s state hdisjoint horder hsplit p.row
  rw [hfound] at hsome
  obtain ⟨first, hfirst⟩ := Option.isSome_iff_exists.mp hsome.symm
  exact Roster.row_eq_of_find? hfirst ha hid

/-- Sending a write that is not taken for a row leaves the row with the server. -/
theorem stored_send_of_not_takes (hb : b.StoresHours stored) (i : Fin n) {row : RowKey}
    {a : Assignment} (ha : s.roster.find? row = some a)
    (hnot : (run b writes legs s state).takes row i = false) :
    let before := (run b writes (stepsBefore legs (.send i)) s state).backend
    stored ((planned b writes legs s state i).send b before).2 row.assignment =
      stored before row.assignment := by
  intro before
  have hids : ((planned b writes legs s state i).plans.map fun p ↦ p.row.assignment).Nodup :=
    Sheet.nodup_assignments_plans _ _ _
  obtain ⟨hparts, hothers⟩ := hb.send hids before
  by_cases hplan : ∃ p ∈ (planned b writes legs s state i).plans, p.row.assignment = row.assignment
  · obtain ⟨p, hp, hid⟩ := hplan
    have hrow := row_of_mem_planned b s state hdisjoint horder hp ha hid
    rw [← PreparedWrite.plans_settled_send _ b before] at hp
    obtain ⟨⟨q, outcome⟩, he, rfl⟩ := List.mem_map.mp hp
    have hout : (run b writes legs s state).outcome? i row = some outcome := by
      rw [outcome?_run b writes s state horder, ← hrow]
      exact SentWrite.outcome?_of_mem (nodup_rows_settled_send _ _ _ b before) he
    have hpart := hparts _ he
    cases outcome with
    | committed stored? => simp [takes, hout] at hnot
    | failed reason =>
      rw [← hrow]
      exact hpart
  · apply hothers
    intro p hp hid
    exact hplan ⟨p, hp, hid⟩

end

/-- Sending a write that is taken for a row gives the row the hours of the plan. -/
theorem stored_send_of_takes (hb : b.StoresHours stored) (s : Sheet) (state : σ)
    (horder : IsSchedule legs) {i : Fin n} {row : RowKey} {stored? : Option Assignment}
    (hout : (run b writes legs s state).outcome? i row = some (.committed stored?)) :
    let before := (run b writes (stepsBefore legs (.send i)) s state).backend
    ∃ p ∈ (planned b writes legs s state i).plans, p.row = row ∧
      stored ((planned b writes legs s state i).send b before).2 row.assignment =
        (stored before row.assignment).map (fun x ↦ { x with hours := p.hours }) ∧
      ∀ back, stored? = some back → back.hours = p.hours := by
  intro before
  have hids : ((planned b writes legs s state i).plans.map fun p ↦ p.row.assignment).Nodup :=
    Sheet.nodup_assignments_plans _ _ _
  have hparts := (hb.send hids before).1
  rw [outcome?_run b writes s state horder] at hout
  obtain ⟨p, hp, rfl⟩ := SentWrite.mem_of_outcome? hout
  have hplan : p ∈ (planned b writes legs s state i).plans := by
    rw [← PreparedWrite.plans_settled_send _ b before]
    exact List.mem_map_of_mem hp
  exact ⟨p, hplan, rfl, hparts _ hp⟩

section

variable (hb : b.StoresHours stored) (s : Sheet) (state : σ)
  (hdisjoint : ∀ i j, i ≠ j → ∀ c ∈ (writes i).cells, c ∉ (writes j).cells)
  (horder : IsSchedule legs)

include hb hdisjoint horder

/-! ### The server after a part of a schedule -/

/-- The server keeps a row as it was right after the preparation of the write that it has taken
last. -/
theorem stored_run {pre post : List (Leg n)} (hsplit : legs = pre ++ post) {row : RowKey}
    {a : Assignment} (ha : s.roster.find? row = some a)
    (hstored : stored state row.assignment = some a) :
    stored (run b writes pre s state).backend row.assignment =
      match (run b writes legs s state).lastTaken? pre row with
      | none => some a
      | some i => (run b writes (stepsBefore legs (.prepare i) ++ [.prepare i]) s
          state).sheet.roster.find? row := by
  induction pre using List.reverseRecOn generalizing post with
  | nil => exact hstored
  | append_singleton pre x ih =>
    rw [List.append_assoc, List.singleton_append] at hsplit
    have hbefore := ih hsplit
    rw [run_append_singleton, lastTaken?_append_singleton]
    cases x with
    | prepare i => exact hbefore
    | settle i =>
      dsimp only [step, Leg.sent?]
      split
      · exact hbefore
      · exact hbefore
    | send i =>
      have hpre : IsSchedule (pre ++ .send i :: post) := hsplit ▸ horder
      have hprepared := prepared?_of_mem b writes s state hpre hpre.before_send
      have hsteps : stepsBefore legs (.send i) = pre := by
        rw [hsplit]
        exact stepsBefore_append (hpre.not_mem_before) post
      rw [← hsplit] at hprepared
      have hbackend : ((run b writes pre s state).step b writes (.send i)).backend =
          ((planned b writes legs s state i).send b (run b writes pre s state).backend).2 := by
        simp only [step, hprepared]
      rw [hbackend]
      dsimp only [Leg.sent?]
      by_cases htakes : (run b writes legs s state).takes row i = true
      · have hfound : ∃ hours, stored (run b writes pre s state).backend row.assignment =
            some { a with hours } := by
          rw [hbefore]
          split
          · exact ⟨a.hours, rfl⟩
          · next j _ =>
            obtain ⟨hours, hj, -⟩ := exists_planned b s state hdisjoint horder j ha
            exact ⟨hours, hj⟩
        obtain ⟨earlier, hearlier⟩ := hfound
        obtain ⟨hours, hi, hplan, -⟩ := exists_planned b s state hdisjoint horder i ha
        obtain ⟨stored?, hout⟩ := exists_outcome?_of_takes htakes
        obtain ⟨p, hp, hrow, hafter, -⟩ := stored_send_of_takes hb s state horder hout
        rw [hsteps, hearlier] at hafter
        rw [if_pos htakes, hafter, hplan p hp hrow]
        exact hi.symm
      · rw [if_neg htakes]
        have hsame := stored_send_of_not_takes b s state hdisjoint horder hb i ha
          (by simpa using htakes)
        rw [hsteps] at hsame
        exact hsame.trans hbefore

/-- Where a write is taken, its cells end with its value. -/
theorem entry_of_takes {i : Fin n} {row : RowKey} {a : Assignment}
    (ha : s.roster.find? row = some a) (htakes : (run b writes legs s state).takes row i = true)
    {week : WeekKey} (hcell : (⟨row, week⟩ : Cell) ∈ (writes i).cells) (former : Option Float) :
    (((run b writes legs s state).fixed writes i).outcome row).entry (writes i).value week former =
      some (writes i).value := by
  obtain ⟨hours, -, hplan, hnamed⟩ := exists_planned b s state hdisjoint horder i ha
  obtain ⟨stored?, hout⟩ := exists_outcome?_of_takes htakes
  obtain ⟨p, hp, hrow, -, hback⟩ := stored_send_of_takes hb s state horder hout
  simp only [fixed, hout, Option.getD_some]
  cases stored? with
  | none => rfl
  | some back =>
    simp only [RowOutcome.entry]
    rw [hback back rfl, hplan p hp hrow, hnamed week hcell]

/-! ### Agreement -/

/-- A named cell ends as it was right after the preparation of a write that is abreast. -/
theorem entryAfter_of_isAbreast {row : RowKey} {a : Assignment}
    (ha : s.roster.find? row = some a) {i : Fin n}
    (htakes : (run b writes legs s state).takes row i = true)
    (habreast : (run b writes legs s state).IsAbreast writes legs row i) {j : Fin n}
    {week : WeekKey} (hj : (⟨row, week⟩ : Cell) ∈ (writes j).cells) (former : Option Float) :
    ((run b writes legs s state).fixed writes j).entryAfter (stagesOf legs) j row week former =
      ((run b writes legs s state).fixed writes j).entryAfter
        (stagesOf (stepsBefore legs (.prepare i) ++ [.prepare i])) j row week former := by
  have hsettled : .settle j ∈ stagesOf legs := mem_stagesOf.mpr (horder.mem j).2.2
  have hother (hij : j ≠ i) := habreast j hij (mem_rowsOf.mpr ⟨week, hj⟩)
  unfold FixedWrite.entryAfter
  rw [if_pos hsettled]
  simp only [mem_stagesOf, Stage.leg, List.mem_append, List.mem_singleton]
  by_cases htaken : (run b writes legs s state).takes row j = true
  · have hentry := entry_of_takes hb s state hdisjoint horder ha htaken hj former
    have hprepared : .prepare j ∈ stepsBefore legs (.prepare i) ∨ Leg.prepare j = .prepare i := by
      by_cases hij : j = i
      · exact .inr (congrArg Leg.prepare hij)
      · have hearlier := hother hij
        rw [if_pos htaken] at hearlier
        exact .inl hearlier
    rw [if_pos hprepared]
    split
    · rfl
    · exact hentry
  · have hij : j ≠ i := by
      rintro rfl
      exact htaken htakes
    have hclear := hother hij
    rw [if_neg htaken] at hclear
    have hentry := entry_of_not_takes writes (by simpa using htaken) (writes j).value week former
    split
    · rfl
    · next hnot =>
      have hunprepared :
          ¬ (.prepare j ∈ stepsBefore legs (.prepare i) ∨ Leg.prepare j = .prepare i) := by
        rintro (hprepared | heq)
        · exact hnot (.inl (hclear hprepared))
        · exact hij (by simpa using heq)
      rw [if_neg hunprepared]
      exact hentry

/-- If the write taken last for a row is abreast, the row ends as it was right after the preparation
of that write. -/
theorem find?_run_of_isAbreast {row : RowKey} {a : Assignment}
    (ha : s.roster.find? row = some a) {i : Fin n}
    (hlast : (run b writes legs s state).lastTaken? legs row = some i)
    (habreast : (run b writes legs s state).IsAbreast writes legs row i) :
    (run b writes legs s state).sheet.roster.find? row =
      (run b writes (stepsBefore legs (.prepare i) ++ [.prepare i]) s
        state).sheet.roster.find? row := by
  obtain ⟨post, hsplit⟩ := exists_eq_stepsBefore_append (horder.mem i).1
  set first := stepsBefore legs (.prepare i) with hfirst
  have hsplit' : legs = (first ++ [.prepare i]) ++ post := by
    rw [List.append_assoc]
    exact hsplit
  obtain ⟨hours, hfinal, hcells⟩ :=
    find?_run b s state hdisjoint horder (List.append_nil legs).symm ha
  obtain ⟨hours', hthen, hcells'⟩ := find?_run b s state hdisjoint horder hsplit' ha
  rw [hfinal, hthen]
  have hsame : hours = hours' := by
    apply Hours.ext_getElem?
    intro week
    by_cases hcell : ∃ j, (⟨row, week⟩ : Cell) ∈ (writes j).cells
    · obtain ⟨j, hj⟩ := hcell
      rw [(hcells week).1 j hj, (hcells' week).1 j hj]
      exact entryAfter_of_isAbreast hb s state hdisjoint horder ha (takes_of_lastTaken? hlast)
        habreast hj _
    · rw [not_exists] at hcell
      rw [(hcells week).2 hcell, (hcells' week).2 hcell]
  rw [hsame]

end

end Traffic

/-- What a server keeps after writes to pairwise disjoint cells, when all of them have been settled,
in any order of their steps and whatever the server has refused. -/
theorem server_after_traffic {b : Backend σ} {stored : σ → Stored} (hb : b.StoresHours stored)
    (writes : Fin n → CellWrite)
    (hdisjoint : ∀ i j, i ≠ j → ∀ c ∈ (writes i).cells, c ∉ (writes j).cells) (s : Sheet)
    (state : σ) (hmirrors : s.roster.Mirrors (stored state)) {legs : List (Leg n)}
    (horder : IsSchedule legs) :
    let final := Traffic.run b writes legs s state
    ∀ p, ∀ a ∈ final.sheet.roster.rowsFor p,
      -- The server keeps a row as it was right after the preparation of the write it took last,
      (stored final.backend a.id =
        match final.lastTaken? legs a.row with
        | none => stored state a.id
        | some i => (Traffic.run b writes (stepsBefore legs (.prepare i) ++ [.prepare i]) s
            state).sheet.roster.find? a.row) ∧
      -- and that is the row as it is held in the end, if this write is abreast.
      ((∀ i, final.lastTaken? legs a.row = some i → final.IsAbreast writes legs a.row i) →
        stored final.backend a.id = some a) := by
  intro final p a ha
  obtain ⟨g, hg, -⟩ :=
    (Traffic.underway b s state hdisjoint horder (List.append_nil legs).symm).rows
  rw [← (Traffic.run_eq_flight b writes s state horder (List.append_nil legs).symm).1] at hg
  have hrows : final.sheet.roster.rowsFor p = (s.roster.revise g).rowsFor p := by rw [← hg]
  rw [hrows, hmirrors.rowsFor_revise, List.mem_map] at ha
  obtain ⟨first, hfirst, rfl⟩ := ha
  have hkept : stored state first.id = some first := (hmirrors.kept p first hfirst).1
  have hfound : s.roster.find? first.row = some first := hmirrors.find?_row hfirst
  have hfinal : final.sheet.roster.find? first.row =
      some { first with hours := g first.row first.hours } := by
    rw [hg, Roster.find?_revise, hfound]
    rfl
  have hserver := Traffic.stored_run hb s state hdisjoint horder (List.append_nil legs).symm hfound
    hkept
  constructor
  · rw [hkept]
    exact hserver
  · intro habreast
    refine hserver.trans ?_
    split
    · next hnone =>
      rw [← hfinal]
      exact (Traffic.find?_run_of_not_takes b s state hdisjoint horder hfound hnone).symm
    · next i hlast =>
      rw [← hfinal]
      exact (Traffic.find?_run_of_isAbreast hb s state hdisjoint horder hfound hlast
        (habreast i hlast)).symm

/-- Two rows are written in a batch of which one row is refused, and another week of the other row
is written while the batch is under way. -/
theorem server_after_traffic_with_refusal :
    let server : RowServer :=
      { rows := [{ id := 42, person := 7, project := 3 }, { id := 43, person := 7, project := 4 }]
        nodup := by decide
        shown := [7]
        locked := [43] }
    let start := ({} : Grid).load RowServer.backend {} server
    let writes : Fin 2 → CellWrite := fun i ↦
      if i = 0 then ⟨[⟨⟨7, 42⟩, ⟨"2024-01-01"⟩⟩, ⟨⟨7, 43⟩, ⟨"2024-01-01"⟩⟩], 4⟩
      else ⟨[⟨⟨7, 42⟩, ⟨"2024-01-08"⟩⟩], 6⟩
    let legs : List (Leg 2) :=
      [.prepare 0, .prepare 1, .send 0, .send 1, .settle 1, .settle 0]
    let final := Traffic.run RowServer.backend writes legs start.grid.sheet start.backend
    final.sheet.roster.order = [⟨7, 42⟩, ⟨7, 43⟩] ∧
      ∀ a ∈ final.sheet.roster.rowsFor 7, RowServer.kept final.backend a.id = some a := by
  intro server start writes legs final
  have hload : start.result = .ok () := rfl
  have hmirrors : start.grid.sheet.roster.Mirrors (RowServer.kept start.backend) :=
    RowServer.keeps.mirrors_load (.inl ⟨(), hload⟩)
  have hdisjoint : ∀ i j, i ≠ j → ∀ c ∈ (writes i).cells, c ∉ (writes j).cells := by decide
  have horder : IsSchedule legs := by
    unfold IsSchedule
    decide
  have habreast : ∀ a ∈ final.sheet.roster.rowsFor 7, ∀ i,
      final.lastTaken? legs a.row = some i → final.IsAbreast writes legs a.row i := by
    decide +kernel
  refine ⟨by decide +kernel, ?_⟩
  intro a ha
  exact (server_after_traffic RowServer.keeps.storesHours writes hdisjoint start.grid.sheet
    start.backend hmirrors horder 7 a ha).2 (habreast a ha)

/-- Two weeks of a row are written side by side, and the row ends differently here and there: either
the first write is refused, and its value is part of the second request; or both are taken, and the
request that is sent last does not have the other value yet. -/
theorem traffic_parts_grid_from_server :
    let first : Cell := ⟨⟨7, 42⟩, ⟨"2024-01-01"⟩⟩
    let second : Cell := ⟨⟨7, 42⟩, ⟨"2024-01-08"⟩⟩
    let server (locked : List AssignmentId) : RowServer :=
      { rows := [{ id := 42, person := 7, project := 3 }]
        nodup := List.nodup_singleton _
        shown := [7]
        locked }
    let start (locked : List AssignmentId) := ({} : Grid).load RowServer.backend {} (server locked)
    let writes : Fin 2 → CellWrite := fun i ↦ if i = 0 then ⟨[first], 4⟩ else ⟨[second], 6⟩
    let afterRefusal : List (Leg 2) :=
      [.prepare 0, .prepare 1, .send 0, .settle 0, .send 1, .settle 1]
    let outOfOrder : List (Leg 2) :=
      [.prepare 0, .prepare 1, .send 1, .settle 1, .send 0, .settle 0]
    let final (locked : List AssignmentId) (legs : List (Leg 2)) :=
      Traffic.run RowServer.unlocking writes legs (start locked).grid.sheet (start locked).backend
    let held (t : Traffic RowServer 2) := (t.sheet.roster.find? first.row).map Assignment.hours
    let kept (t : Traffic RowServer 2) := (RowServer.kept t.backend 42).map Assignment.hours
    RowServer.unlocking.StoresHours RowServer.kept ∧
      (∀ locked, (start locked).grid.sheet.roster.Mirrors (RowServer.kept (start locked).backend)) ∧
      (IsSchedule afterRefusal ∧ held (final [42] afterRefusal) ≠ kept (final [42] afterRefusal)) ∧
      IsSchedule outOfOrder ∧ held (final [] outOfOrder) ≠ kept (final [] outOfOrder) := by
  intro first second server start writes afterRefusal outOfOrder final held kept
  have hmirrors (locked : List AssignmentId) :
      (start locked).grid.sheet.roster.Mirrors (RowServer.kept (start locked).backend) := by
    have hload : (start locked).result = .ok () := rfl
    exact RowServer.keeps.mirrors_load (.inl ⟨(), hload⟩)
  have hschedules : IsSchedule afterRefusal ∧ IsSchedule outOfOrder := by
    unfold IsSchedule
    decide
  have hrefused : (held (final [42] afterRefusal)).map (fun h ↦ h[first.week]?.isSome) ≠
      (kept (final [42] afterRefusal)).map (fun h ↦ h[first.week]?.isSome) := by
    decide +kernel
  have hlost : (held (final [] outOfOrder)).map (fun h ↦ h[second.week]?.isSome) ≠
      (kept (final [] outOfOrder)).map (fun h ↦ h[second.week]?.isSome) := by
    decide +kernel
  refine ⟨RowServer.unlocking_storesHours, hmirrors, ⟨hschedules.1, ?_⟩, hschedules.2, ?_⟩
  · exact fun hsame ↦ hrefused (by rw [hsame])
  · exact fun hsame ↦ hlost (by rw [hsame])

end AssignmentGrid
