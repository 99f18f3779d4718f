import AssignmentGrid.Proofs.CommitTargets
import AssignmentGrid.Proofs.RosterIndex
import AssignmentGrid.Proofs.RosterStep

/-!
# An assignment that is taken away

An assignment that the backend has deleted is taken out of the rows, both indices, the totals, the
selection and the edit, and nothing else changes. Selection and edit are kept while all rows to
which they refer are found; a row that has changed hands may be shown without being found.
Specification `SPEC_FULL.md:180–181`.
-/

namespace AssignmentGrid

variable {σ : Type}

/-! ### Owners in reachable grids -/

/-- Whatever an action does to the rows keeps owners and rows in step. -/
theorem Action.LeadsTo.ownersHold {b : Backend σ} {g : Grid} {s : σ} {a : Action} {later : Roster}
    (hleads : a.LeadsTo b g s later) (h : g.roster.OwnersHold) : later.OwnersHold := by
  cases hleads with
  | revised _ f => exact h.revise f
  | loaded _ snapshot => exact Roster.ownersHold_ofSnapshot _ _
  | fetched _ _ => exact h.replaceRows _ _
  | created _ _ => exact h.file _ false
  | removed id => exact h.remove id

/-- In a reachable grid whoever owns an assignment holds a row for it. -/
theorem Grid.Reachable.ownersHold {g : Grid} (h : g.Reachable) : g.roster.OwnersHold := by
  induction h with
  | new config hoursCap => exact Roster.ownersHold_empty
  | perform b s a _ ih => exact (Action.LeadsTo.perform a b _ s).ownersHold ih

/-! ### Rows without an assignment -/

namespace Roster

/-- Whether no assignment is held twice. -/
def HoldsOnce (r : Roster) : Prop := (r.assignments.map Assignment.id).Nodup

instance (r : Roster) : Decidable r.HoldsOnce := inferInstanceAs (Decidable (List.Nodup _))

variable {r : Roster} {id : AssignmentId} {p o : PersonId}

/-- A person's rows are held by that person. -/
theorem exists_of_mem_rowsFor {a : Assignment} (h : a ∈ r.rowsFor p) :
    ∃ q ∈ r.people, q.id = p ∧ a ∈ q.rows := by
  cases hperson : r.person? p with
  | none =>
    rw [rowsFor_of_none hperson] at h
    cases h
  | some q =>
    rw [rowsFor_of_some hperson] at h
    exact ⟨q, mem_of_person? hperson, id_of_person? hperson, h⟩

namespace HoldsOnce

theorem nodup_rows (h : r.HoldsOnce) {q : PersonRow} (hq : q ∈ r.people) :
    (q.rows.map Assignment.id).Nodup := by
  unfold HoldsOnce assignments at h
  rw [List.map_flatMap, List.nodup_flatMap] at h
  exact h.1 q hq

/-- Nobody has a row of an assignment of which somebody else has one. -/
theorem holder_eq (h : r.HoldsOnce) {a c : Assignment} (ha : a ∈ r.rowsFor p)
    (hc : c ∈ r.rowsFor o) (hid : a.id = c.id) : p = o := by
  obtain ⟨q, hq, rfl, haq⟩ := exists_of_mem_rowsFor ha
  obtain ⟨q', hq', rfl, hcq⟩ := exists_of_mem_rowsFor hc
  unfold HoldsOnce assignments at h
  rw [List.map_flatMap, List.nodup_flatMap] at h
  by_contra hne
  have : Std.Symm (Function.onFun List.Disjoint fun q : PersonRow ↦ q.rows.map Assignment.id) :=
    ⟨fun _ _ h ↦ h.symm⟩
  have hdisjoint := h.2.forall hq hq' fun heq ↦ hne (congrArg PersonRow.id heq)
  exact hdisjoint (List.mem_map_of_mem haq) (hid ▸ List.mem_map_of_mem hcq)

/-- Whoever does not own an assignment has no row of it to lose. -/
theorem filter_of_ne (h : r.HoldsOnce) (howners : r.OwnersHold) (howner : r.ownerOf? id = some p)
    (ho : o ≠ p) : ((r.rowsFor o).filter fun a ↦ a.id ≠ id) = r.rowsFor o := by
  obtain ⟨a, ha, hid⟩ := howners id p howner
  rw [List.filter_eq_self]
  intro c hc
  have hne : c.id ≠ id := fun hcid ↦ ho (h.holder_eq hc ha (hcid.trans hid.symm))
  simpa using hne

/-- The people after an assignment was taken out: everybody has all other rows in their order. -/
theorem people_remove (h : r.HoldsOnce) (howners : r.OwnersHold)
    (howner : r.ownerOf? id = some p) :
    (r.remove id).2.people =
      r.people.map fun q ↦ { q with rows := q.rows.filter fun a ↦ a.id ≠ id } := by
  unfold remove
  rw [howner]
  refine (people_modifyPerson _ _ _).trans (List.map_congr_left fun q hq ↦ ?_)
  have hrows : r.rowsFor q.id = q.rows := rowsFor_of_some (person?_of_mem hq)
  by_cases hp : q.id = p
  · rw [if_pos (by simpa using hp), eraseP_id_eq_filter (h.nodup_rows hq)]
  · have hkept := h.filter_of_ne howners howner hp
    rw [hrows] at hkept
    rw [if_neg (by simpa using hp), hkept]

/-- The other rows are shown in the same order as before. -/
theorem order_remove (h : r.HoldsOnce) (howners : r.OwnersHold)
    (howner : r.ownerOf? id = some p) :
    (r.remove id).2.order = r.order.filter fun key ↦ key.assignment ≠ id := by
  unfold order assignments
  rw [h.people_remove howners howner, List.flatMap_map, List.filter_map, List.filter_flatMap]
  rfl

/-- The rows of everybody after an assignment was taken out. -/
theorem rowsFor_remove (h : r.HoldsOnce) (howners : r.OwnersHold)
    (howner : r.ownerOf? id = some p) (o : PersonId) :
    (r.remove id).2.rowsFor o = (r.rowsFor o).filter fun a ↦ a.id ≠ id := by
  rw [Roster.rowsFor_remove, howner]
  split
  · cases hperson : r.person? o with
    | none => rw [rowsFor_of_none hperson]; rfl
    | some q =>
      rw [rowsFor_of_some hperson, eraseP_id_eq_filter (h.nodup_rows (mem_of_person? hperson))]
  · next hne => exact (h.filter_of_ne howners howner fun ho ↦ hne (ho ▸ rfl)).symm

/-- Every other row is found as before. -/
theorem find?_remove (h : r.HoldsOnce) (howners : r.OwnersHold)
    (howner : r.ownerOf? id = some p) (key : RowKey) :
    (r.remove id).2.find? key = if key.assignment = id then none else r.find? key := by
  unfold find?
  rw [ownerOf?_remove, h.rowsFor_remove howners howner, List.find?_filter]
  by_cases hid : key.assignment = id
  · rw [if_pos hid, if_pos hid, if_neg nofun]
  · have hsame (a : Assignment) :
        (decide (a.id ≠ id) = true ∧ (a.id == key.assignment) = true) ↔
          (a.id == key.assignment) = true := by
      rw [and_iff_right_iff_imp, beq_iff_eq, decide_eq_true_eq]
      intro ha
      rw [ha]
      exact hid
    rw [if_neg hid, if_neg hid]
    simp only [hsame, Bool.decide_eq_true]

end HoldsOnce

end Roster

/-! ### The grid -/

namespace Grid

/-- The cells that the selection and the edit name. -/
def namedCells (g : Grid) : List Cell :=
  g.selection.cells ++ g.selection.anchor?.toList ++ g.selection.focus?.toList ++
    g.editedCell?.toList

/-- What is left of a grid when an assignment has been taken away: nothing of the assignment, and
all the rest. -/
structure WithoutRow (g : Grid) (p : PersonId) (a : Assignment) (later : Grid) : Prop where
  /-- The person owned the assignment. -/
  owner : g.roster.ownerOf? a.id = some p
  row : g.roster.assignment? a.id = some a
  ownerless : later.roster.ownerOf? a.id = none
  unfound : later.roster.assignment? a.id = none
  /-- The other rows are held by the same people in the same order. -/
  people : later.roster.people =
    g.roster.people.map fun q ↦ { q with rows := q.rows.filter fun c ↦ c.id ≠ a.id }
  order : later.roster.order = g.roster.order.filter fun key ↦ key.assignment ≠ a.id
  owners : ∀ id ≠ a.id, later.roster.ownerOf? id = g.roster.ownerOf? id
  found : ∀ key, key.assignment ≠ a.id → later.roster.find? key = g.roster.find? key
  unnamed : ∀ c ∈ later.namedCells, c.row.assignment ≠ a.id
  counted : ∀ week, week ∈ g.axis.keys ∨ week ∈ a.hours.keys →
    later.totals.get? p week = some (weekSum (later.roster.rowsFor p) week)
  spared : ∀ q week, ¬ (q = p ∧ (week ∈ g.axis.keys ∨ week ∈ a.hours.keys)) →
    later.totals.get? q week = g.totals.get? q week
  /-- The selection is kept if all rows it names are found, and nothing is selected otherwise. -/
  selection : later.selection =
    if ∀ c ∈ g.selection.cells, (later.roster.find? c.row).isSome then g.selection else {}
  /-- The edit is kept if the row it names is found, and closed otherwise. -/
  edit : later.edit? = g.edit?.filter fun e ↦ (later.roster.find? e.cell.row).isSome
  /-- Nothing else changes but that one event is put into the queue. -/
  rest : later = { g with
    sheet := later.sheet
    selection := later.selection
    edit? := later.edit?
    events := g.events ++ [.analyticsInvalidated] }

variable {g : Grid} {p : PersonId} {id : AssignmentId}

/-- Selection and edit name found rows only after they have been let go of otherwise. -/
theorem isSome_find?_of_mem_namedCells (hshape : g.IsCoherent) {c : Cell}
    (hc : c ∈ g.dropDangling.namedCells) : (g.roster.find? c.row).isSome = true := by
  have hselected (hc : c ∈ g.dropDangling.selection.cells) :
      (g.roster.find? c.row).isSome = true := by
    unfold dropDangling at hc
    dsimp only at hc
    split at hc
    · next hall => exact List.all_eq_true.mp hall c hc
    · cases hc
  have hcoherent : g.dropDangling.selection.Coherent g.axis :=
    (BesideLoads.dropDangling g).selection hshape
  unfold namedCells at hc
  simp only [List.mem_append, Option.mem_toList] at hc
  rcases hc with ((hc | hanchor) | hfocus) | hedited
  · exact hselected hc
  · exact hselected (hcoherent.anchor_mem hanchor)
  · exact hselected (hcoherent.focus_mem hfocus)
  · obtain ⟨e, he, rfl⟩ := Option.map_eq_some_iff.mp hedited
    exact (Option.filter_eq_some_iff.mp he).2

/-- A row is taken away from its owner, and nothing of it is left. -/
theorem WithoutRow.takeAway (hshape : g.IsCoherent) (howners : g.roster.OwnersHold)
    (honce : g.roster.HoldsOnce) (howner : g.roster.ownerOf? id = some p) :
    ∃ a, a.id = id ∧ g.WithoutRow p a (g.takeAway p id) := by
  obtain ⟨a, ha⟩ := howners.exists_find? howner
  obtain ⟨rfl, -⟩ := exists_splitAtRow ha
  refine ⟨a, rfl, ?_⟩
  have hfound (key : RowKey) : (g.takeAway p a.id).roster.find? key =
      if key.assignment = a.id then none else g.roster.find? key :=
    honce.find?_remove howners howner key
  have howned (id : AssignmentId) : (g.takeAway p a.id).roster.ownerOf? id =
      if id = a.id then none else g.roster.ownerOf? id := g.roster.ownerOf?_remove a.id id
  have htotal (q : PersonId) (week : WeekKey) : (g.takeAway p a.id).totals.get? q week =
      if p = q ∧ (week ∈ g.axis.keys ∨ week ∈ a.hours.keys) then
        some (weekSum ((g.takeAway p a.id).roster.rowsFor p) week)
      else g.totals.get? q week := by
    refine (get?_takeAway howner q week).trans ?_
    simp only [mem_weeksTaken ha]
    rfl
  have hpeople := honce.people_remove howners howner
  constructor
  case owner => exact howner
  case row =>
    rw [Roster.assignment?, howner, Option.bind_some, Roster.find?, if_pos howner]
    exact ha
  case ownerless => rw [howned, if_pos rfl]
  case unfound => rw [Roster.assignment?, howned, if_pos rfl, Option.bind_none]
  case people => exact hpeople
  case order => exact honce.order_remove howners howner
  case owners =>
    intro id hid
    rw [howned, if_neg hid]
  case found =>
    intro key hkey
    rw [hfound, if_neg hkey]
  case unnamed =>
    intro c hc hid
    have hsome : ((g.takeAway p a.id).roster.find? c.row).isSome = true :=
      isSome_find?_of_mem_namedCells (g := { g with sheet := (g.takeAway p a.id).sheet }) hshape hc
    rw [hfound, if_pos hid] at hsome
    cases hsome
  case counted =>
    intro week hweek
    rw [htotal, if_pos ⟨rfl, hweek⟩]
  case spared =>
    intro q week hpair
    rw [htotal, if_neg fun h ↦ hpair ⟨h.1.symm, h.2⟩]
  case selection =>
    simp only [← List.all_eq_true]
    rfl
  case edit => rfl
  case rest => rfl

/-- An assignment that was taken away successfully had an owner. -/
theorem unassign_eq_ok {b : Backend σ} {s : σ} (h : (g.unassign b id s).result = .ok ()) :
    ∃ p, g.roster.ownerOf? id = some p ∧ (g.unassign b id s).grid = g.takeAway p id := by
  unfold unassign at h ⊢
  cases howner : g.roster.ownerOf? id with
  | none =>
    rw [howner] at h
    cases h
  | some p =>
    rw [howner] at h
    dsimp only at h ⊢
    split at h
    · exact ⟨p, rfl, rfl⟩
    · cases h

variable {a : Assignment} {later : Grid}

/-- As long as every row that is shown is found, a selection of rows that are still shown is kept,
and so is an edit in one. -/
theorem WithoutRow.kept (h : g.WithoutRow p a later)
    (hreachable : ∀ key ∈ g.roster.order, (g.roster.find? key).isSome = true) :
    ((∀ c ∈ g.selection.cells, c.row ∈ later.roster.order) → later.selection = g.selection) ∧
      ∀ e, g.edit? = some e → e.cell.row ∈ later.roster.order → later.edit? = some e := by
  have hfound (key : RowKey) (hkey : key ∈ later.roster.order) :
      (later.roster.find? key).isSome = true := by
    rw [h.order, List.mem_filter, decide_eq_true_eq] at hkey
    rw [h.found key hkey.2]
    exact hreachable key hkey.1
  constructor
  · intro hshown
    rw [h.selection, if_pos fun c hc ↦ hfound c.row (hshown c hc)]
  · intro e he hshown
    rw [h.edit, he, Option.filter_some, if_pos (hfound _ hshown)]

end Grid

/-- An assignment that is held once is taken away with everything that belongs to it. Nobody owns
it, it is neither shown nor found, and neither the selection nor the edit names it; all other rows
stay where they are. The totals of its owner are those of the remaining rows in every week of the
axis and in every week in which it had hours, all others stay, and one event is put into the queue.
Selection and edit are kept exactly if the rows they name are found, which all rows still shown are
if every row has been found so far. -/
theorem removed_row_leaves_no_trace {g : Grid} (h : g.Reachable) (honce : g.roster.HoldsOnce)
    (b : Backend σ) (id : AssignmentId) (s : σ) (hok : (g.unassign b id s).result = .ok ()) :
    let later := (g.unassign b id s).grid
    ∃ p a, a.id = id ∧ g.WithoutRow p a later ∧
      ((∀ key ∈ g.roster.order, (g.roster.find? key).isSome = true) →
        ((∀ c ∈ g.selection.cells, c.row ∈ later.roster.order) →
          later.selection = g.selection) ∧
        ∀ e, g.edit? = some e → e.cell.row ∈ later.roster.order → later.edit? = some e) := by
  intro later
  obtain ⟨p, howner, hlater⟩ := Grid.unassign_eq_ok hok
  obtain ⟨a, hid, hwithout⟩ := Grid.WithoutRow.takeAway h.isCoherent h.ownersHold honce howner
  rw [← hlater] at hwithout
  exact ⟨p, a, hid, hwithout, hwithout.kept⟩

/-- Hours are being typed for one row and another one is selected when the first is taken away. -/
theorem removed_row_leaves_no_trace_of_edited_row :
    let cell (id : AssignmentId) : Cell := ⟨⟨7, id⟩, ⟨"2024-01-01"⟩⟩
    let script : Script :=
      { standing? := some
          { weeks := [⟨"2024-01-01"⟩]
            people := [⟨7, "Ada Park"⟩]
            rows := [{ id := 42, person := 7, project := 1
                       hours := (∅ : Hours).insert ⟨"2023-12-25"⟩ 8 },
              { id := 43, person := 7, project := 2 }] } }
    let actions : List Action :=
      [.operation (.load {}), .operation (.input (.click (cell 42))),
        .operation (.input (.key (.char '5'))), .operation (.input (.click (cell 43)))]
    let now := Action.run Script.backend actions ({}, script)
    let later := (now.1.unassign Script.backend 42 now.2).grid
    now.1.edit? = some ⟨cell 42, "5"⟩ ∧ later.edit? = none ∧
      later.selection = now.1.selection ∧ later.roster.order = [⟨7, 43⟩] ∧
      later.totals.get? 7 ⟨"2023-12-25"⟩ =
        some (weekSum (later.roster.rowsFor 7) ⟨"2023-12-25"⟩) := by
  intro cell script actions now later
  have hreachable : now.1.Reachable := .run Script.backend (.new {} Hours.weekCap) actions script
  have hok : (now.1.unassign Script.backend 42 now.2).result = .ok () := by decide +kernel
  obtain ⟨p, a, hid, hwithout, hkept⟩ :=
    removed_row_leaves_no_trace hreachable (by decide +kernel) Script.backend 42 now.2 hok
  have howner : now.1.roster.ownerOf? a.id = some 7 := hid ▸ by decide +kernel
  obtain rfl : 7 = p := Option.some.inj (howner.symm.trans hwithout.owner)
  have hrow : (now.1.roster.assignment? a.id).map (fun a ↦ a.hours.keys) =
      some [⟨"2023-12-25"⟩] := hid ▸ by decide +kernel
  rw [hwithout.row, Option.map_some] at hrow
  obtain ⟨hselection, -⟩ := hkept (by decide +kernel)
  refine ⟨by decide +kernel, by decide +kernel, hselection (by decide +kernel),
    by decide +kernel, hwithout.counted _ (.inr ?_)⟩
  rw [Option.some.inj hrow]
  exact List.mem_singleton_self _

/-- Somebody's row has gone over to another person, and then the rows of both have come anew. It is
selected and edited; when a row of its former holder is taken away, it is still shown, but nothing
is selected and the edit is closed. -/
theorem selection_in_moved_row_lost :
    let cell : Cell := ⟨⟨9, 42⟩, ⟨"2024-01-01"⟩⟩
    let script : Script :=
      { standing? := some
          { weeks := [⟨"2024-01-01"⟩]
            people := [⟨7, "Ada Park"⟩, ⟨9, "Sam Ortiz"⟩]
            rows := [{ id := 42, person := 7, project := 1 },
              { id := 43, person := 7, project := 2 }] }
        details := [.ok [{ id := 42, person := 9, project := 1 }],
          .ok [{ id := 43, person := 7, project := 2 }]] }
    let actions : List Action :=
      [.operation (.load {}), .operation (.refresh 9), .operation (.refresh 7),
        .operation (.input (.click cell)), .operation (.input (.key (.char '5')))]
    let now := Action.run Script.backend actions ({}, script)
    let later := (now.1.unassign Script.backend 43 now.2).grid
    now.1.Reachable ∧ now.1.roster.HoldsOnce ∧
      (now.1.unassign Script.backend 43 now.2).result = .ok () ∧
      now.1.selection.cells = [cell] ∧ now.1.edit? = some ⟨cell, "5"⟩ ∧
      later.roster.order = [cell.row] ∧ later.selection = {} ∧ later.edit? = none := by
  intro cell script actions now later
  refine ⟨.run Script.backend (.new {} Hours.weekCap) actions script, ?_⟩
  decide +kernel

end AssignmentGrid
