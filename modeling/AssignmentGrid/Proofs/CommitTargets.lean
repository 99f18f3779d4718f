import AssignmentGrid.Proofs.CommitEnd
import AssignmentGrid.Proofs.References

/-!
# Whether the edited cell is written

An edit is opened on a selected cell. A commit writes to all selected cells if there are several,
and to the edited one otherwise. The selection can move on while the edit stays open, and most
inputs then lead to a single cell, so that the edited cell is written. Only a range that is
stretched beside the edit can take the place of the edited cell. Specification
`SPEC_FULL.md:73–75,115`.
-/

namespace AssignmentGrid

variable {σ : Type}

/-- The grid and the backend's state after inputs, one after the other. -/
def Input.run (b : Backend σ) (inputs : List Input) (x : Grid × σ) : Grid × σ :=
  Action.run b (inputs.map fun i ↦ .operation (.input i)) x

namespace Grid

/-- The cell that is being edited. -/
def editedCell? (g : Grid) : Option Cell := g.edit?.map CellEdit.cell

/-- Whether an input stretches a range: a click with shift, or a cell that the pointer enters
during a drag. -/
def stretches (g : Grid) : Input → Bool
  | .shiftClick _ => true
  | .mouseEnter _ => g.selection.isDragging
  | _ => false

/-- A cell is being edited while several others are selected. -/
structure LeavesOut (g : Grid) (c : Cell) : Prop where
  edited : g.editedCell? = some c
  multi : g.selection.isMulti = true
  apart : c ∉ g.selection.cells

variable {g : Grid} {c : Cell}

/-- The edited cell is targeted unless several others are selected. -/
theorem mem_targets_iff (g : Grid) (edit : CellEdit) :
    edit.cell ∈ g.targets edit ↔
      (g.selection.isMulti = true → edit.cell ∈ g.selection.cells) := by
  unfold targets
  cases g.selection.isMulti with
  | true => simp
  | false => simp

theorem leavesOut_iff {edit : CellEdit} (hedit : g.edit? = some edit) :
    g.LeavesOut edit.cell ↔ edit.cell ∉ g.targets edit := by
  have hedited : g.editedCell? = some edit.cell := by rw [editedCell?, hedit, Option.map_some]
  rw [mem_targets_iff]
  constructor
  · intro h hmem
    exact h.apart (hmem h.multi)
  · intro h
    obtain ⟨hmulti, hapart⟩ := Classical.not_imp.mp h
    exact ⟨hedited, hmulti, hapart⟩

/-! ### One input -/

/-- A commit closes the edit. -/
theorem edit?_commit (g : Grid) (b : Backend σ) (s : σ) : (g.commit b s).grid.edit? = none := by
  unfold commit
  cases hedit : g.edit? with
  | none => exact hedit
  | some edit =>
    dsimp only
    cases g.cancelEdit.commitCells edit with
    | error e => rfl
    | ok cells =>
      have hwritten : (g.cancelEdit.applyHours b cells
          (Hours.ofTyped g.cancelEdit.hoursCap edit.raw) s).grid.edit? = none :=
        congrArg Grid.edit? (g.cancelEdit.applyHours_grid b s cells _)
      dsimp only
      split
      · exact hwritten
      · exact hwritten

/-- Nothing is left out while an edit stands on a selected cell, if one is open at all. -/
theorem not_leavesOut (h : ∀ edit, g.edit? = some edit → edit.cell ∈ g.selection.cells) :
    ¬ g.LeavesOut c := by
  intro hleft
  obtain ⟨edit, hedit, rfl⟩ := Option.map_eq_some_iff.mp hleft.edited
  exact hleft.apart (h edit hedit)

theorem not_leavesOut_of_closed (h : g.edit? = none) : ¬ g.LeavesOut c :=
  not_leavesOut fun _ hedit ↦ absurd (h.symm.trans hedit) nofun

/-- An edit is opened on the focus, which is selected. -/
theorem not_leavesOut_startEdit (h : g.IsCoherent) (hclosed : g.edit? = none) :
    ¬ g.startEdit.2.LeavesOut c := by
  unfold startEdit
  cases hfocus : g.selection.focus? with
  | none => exact not_leavesOut_of_closed hclosed
  | some cell =>
    apply not_leavesOut
    intro edit hedit
    obtain rfl := Option.some.inj hedit
    exact Selection.Coherent.focus_mem h hfocus

/-- An edit is opened with a character on the one selected cell. -/
theorem not_leavesOut_startTyped (hclosed : g.edit? = none) (typed : Char) :
    ¬ (g.startTyped typed).2.LeavesOut c := by
  unfold startTyped
  split
  · next cell _ hcell =>
    split
    · next opened hopened =>
      obtain ⟨-, hcells⟩ := Option.ite_none_right_eq_some.mp hopened
      apply not_leavesOut
      intro edit hedit
      obtain rfl := Option.some.inj (hcells.trans hedit)
      exact Selection.mem_cells_of_cell? hcell
    · exact not_leavesOut_of_closed hclosed
  · exact not_leavesOut_of_closed hclosed

theorem edit?_arrow (g : Grid) (d : Direction) (shift : Bool) :
    (g.arrow d shift).edit? = g.edit? := by
  obtain ⟨selection, hselection⟩ := g.exists_arrow d shift
  rw [hselection]

/-- Without an open edit a key either opens one on a selected cell or opens none. -/
theorem not_leavesOut_selectionKey (h : g.IsCoherent) (hclosed : g.edit? = none) (key : Key) :
    ¬ (g.selectionKey key).LeavesOut c := by
  cases key with
  | char typed =>
    have hkey : g.selectionKey (.char typed) =
        if Hours.isEntry typed then (g.startTyped typed).2 else g := rfl
    rw [hkey]
    split
    · exact not_leavesOut_startTyped hclosed typed
    · exact not_leavesOut_of_closed hclosed
  | enter => exact not_leavesOut_startEdit h hclosed
  | arrow d shift => exact not_leavesOut_of_closed ((g.edit?_arrow d shift).trans hclosed)
  | backspace => exact not_leavesOut_of_closed hclosed
  | escape => exact not_leavesOut_of_closed hclosed

namespace LeavesOut

/-- What is typed into an edit does not move it. -/
theorem of_modifyEdit (f : CellEdit → CellEdit) (hf : ∀ e, (f e).cell = e.cell)
    (h : (g.modifyEdit f).LeavesOut c) : g.LeavesOut c where
  edited := by
    have hedited := h.edited
    rwa [editedCell?, modifyEdit, Option.map_map, show CellEdit.cell ∘ f = CellEdit.cell from
      funext hf] at hedited
  multi := h.multi
  apart := h.apart

variable (b : Backend σ) (s : σ)

/-- A key that belongs to an edit leaves out nothing that has not been left out before. -/
theorem of_editKey {key : Key} (h : (g.editKey b key s).grid.LeavesOut c) : g.LeavesOut c := by
  cases key with
  | char typed => exact of_modifyEdit (CellEdit.push · typed) (fun _ ↦ rfl) h
  | backspace => exact of_modifyEdit CellEdit.backspace (fun _ ↦ rfl) h
  | enter => exact absurd h (not_leavesOut_of_closed (g.edit?_commit b s))
  | escape => exact absurd h (not_leavesOut_of_closed rfl)
  | arrow d shift => exact h

/-- A cell that is left out after an input was edited before it. It has been left out before,
unless the input stretches a range. -/
theorem of_handle (hshape : g.IsCoherent) {i : Input} (h : (g.handle b i s).grid.LeavesOut c) :
    g.editedCell? = some c ∧ (g.LeavesOut c ∨ g.stretches i = true) := by
  cases i with
  | click cell => exact absurd h.multi nofun
  | mouseDown cell => exact absurd h.multi nofun
  | doubleClick cell => exact absurd h.multi nofun
  | shiftClick cell => exact ⟨h.edited, .inr rfl⟩
  | mouseUp => exact ⟨h.edited, .inl ⟨h.edited, h.multi, h.apart⟩⟩
  | blur => exact absurd h (not_leavesOut_of_closed (g.edit?_commit b s))
  | mouseEnter cell =>
    cases hdragging : g.selection.isDragging with
    | true => exact ⟨h.edited, .inr hdragging⟩
    | false =>
      have hsame : (g.handle b (.mouseEnter cell) s).grid = g := by
        unfold handle dragTo Selection.dragTo
        rw [hdragging]
      rw [hsame] at h
      exact ⟨h.edited, .inl h⟩
  | key key =>
    unfold handle handleKey at h
    cases hedit : g.edit? with
    | none =>
      rw [hedit] at h
      exact absurd h (not_leavesOut_selectionKey hshape hedit key)
    | some edit =>
      rw [hedit] at h
      have hbefore := of_editKey b s h
      exact ⟨hbefore.edited, .inl hbefore⟩

end LeavesOut

end Grid

/-! ### Runs of inputs -/

/-- A cell that is left out after inputs has been left out all along, or it was edited and not
left out when an input stretched a range, and has been left out ever since. -/
theorem Grid.LeavesOut.of_run {g : Grid} {c : Cell} (hshape : g.IsCoherent) {b : Backend σ} {s : σ}
    {inputs : List Input} (h : (Input.run b inputs (g, s)).1.LeavesOut c) :
    (∀ first, first <+: inputs → (Input.run b first (g, s)).1.LeavesOut c) ∨
      ∃ before i after, inputs = before ++ i :: after ∧
        let x := Input.run b before (g, s)
        x.1.editedCell? = some c ∧ ¬ x.1.LeavesOut c ∧ x.1.stretches i = true ∧
          ∀ first, first <+: after →
            (Input.run b (before ++ i :: first) (g, s)).1.LeavesOut c := by
  induction inputs generalizing g s with
  | nil =>
    left
    intro first hfirst
    obtain rfl := List.prefix_nil.mp hfirst
    exact h
  | cons i rest ih =>
    have hnext : ((Action.operation (.input i)).perform b g s).1.IsCoherent :=
      hshape.perform b _ s
    rcases ih hnext h with hall | ⟨before, j, after, rfl, hlost⟩
    · have hfirst : (g.handle b i s).grid.LeavesOut c := hall [] List.nil_prefix
      obtain ⟨hedited, hcause⟩ := hfirst.of_handle b s hshape
      by_cases hbefore : g.LeavesOut c
      · left
        intro first hprefix
        cases first with
        | nil => exact hbefore
        | cons j more =>
          obtain ⟨rfl, hmore⟩ := List.cons_prefix_cons.mp hprefix
          exact hall more hmore
      · exact .inr ⟨[], i, rest, rfl, hedited, hbefore, hcause.resolve_left hbefore, hall⟩
    · exact .inr ⟨i :: before, j, after, rfl, hlost⟩

/-- After any inputs in a reachable grid, a commit of the open edit goes to the selected cells if
there are several, and otherwise to the edited one. So the edited cell is written unless several
others are selected. That comes about in one way only: while the edit was open and would have been
written to its cell, a click with shift or a drag stretched a range, and from then on the cell has
been left out. -/
theorem edited_cell_targeted {g : Grid} (h : g.Reachable) (b : Backend σ) (s : σ)
    (inputs : List Input) :
    let now := (Input.run b inputs (g, s)).1
    ∀ edit, now.edit? = some edit →
      now.commitCells edit = .ok (now.targets edit) ∧
      (edit.cell ∈ now.targets edit ↔
        (now.selection.isMulti = true → edit.cell ∈ now.selection.cells)) ∧
      (¬ g.LeavesOut edit.cell → edit.cell ∉ now.targets edit →
        ∃ before i after, inputs = before ++ i :: after ∧
          let x := Input.run b before (g, s)
          x.1.editedCell? = some edit.cell ∧ ¬ x.1.LeavesOut edit.cell ∧
            x.1.stretches i = true ∧
            ∀ first, first <+: after →
              (Input.run b (before ++ i :: first) (g, s)).1.LeavesOut edit.cell) := by
  intro now edit hedit
  have hnow : now.IsCoherent := (h.run b (inputs.map fun i ↦ .operation (.input i)) s).isCoherent
  refine ⟨hnow.commitCells edit, now.mem_targets_iff edit, fun hstart hmissed ↦ ?_⟩
  have hleft : now.LeavesOut edit.cell := (Grid.leavesOut_iff hedit).mpr hmissed
  refine (hleft.of_run h.isCoherent).resolve_left fun hall ↦ ?_
  exact hstart (hall [] List.nil_prefix)

/-- Five hours are typed for the first of three weeks, and a range is then selected from the second
to the third: the click with shift has left out the edited cell. -/
theorem edited_cell_left_out :
    let cell (week : String) : Cell := ⟨⟨7, 42⟩, ⟨week⟩⟩
    let script : Script :=
      { standing? := some
          { weeks := [⟨"2024-01-01"⟩, ⟨"2024-01-08"⟩, ⟨"2024-01-15"⟩]
            people := [⟨7, "Ada Park"⟩]
            rows := [{ id := 42, person := 7, project := 1 }] } }
    let start := Action.run Script.backend [.operation (.load {})] ({}, script)
    let inputs : List Input :=
      [.click (cell "2024-01-01"), .key (.char '5'), .click (cell "2024-01-08"),
        .shiftClick (cell "2024-01-15")]
    let now := (Input.run Script.backend inputs start).1
    now.edit? = some ⟨cell "2024-01-01", "5"⟩ ∧
      now.commitCells ⟨cell "2024-01-01", "5"⟩ =
        .ok [cell "2024-01-08", cell "2024-01-15"] ∧
      ∃ before i after, inputs = before ++ i :: after ∧
        (Input.run Script.backend before start).1.stretches i = true := by
  intro cell script start inputs now
  have hreachable : start.1.Reachable := .run Script.backend (.new {} Hours.weekCap) _ script
  have hedit : now.edit? = some ⟨cell "2024-01-01", "5"⟩ := by decide +kernel
  have htargets : now.targets ⟨cell "2024-01-01", "5"⟩ =
      [cell "2024-01-08", cell "2024-01-15"] := by decide +kernel
  have hstart : ¬ start.1.LeavesOut (cell "2024-01-01") :=
    Grid.not_leavesOut_of_closed (by decide +kernel)
  obtain ⟨hcells, -, hlost⟩ :=
    edited_cell_targeted hreachable Script.backend start.2 inputs _ hedit
  obtain ⟨before, i, after, hinputs, -, -, hstretches, -⟩ :=
    hlost hstart (by rw [htargets]; decide)
  exact ⟨hedit, htargets ▸ hcells, before, i, after, hinputs, hstretches⟩

/-- Five hours are typed for a cell of row 42, and a range of row 43 is dragged over before they
are committed: they are written to row 43 only. -/
theorem other_row_written :
    let cell (id : AssignmentId) (week : String) : Cell := ⟨⟨7, id⟩, ⟨week⟩⟩
    let script : Script :=
      { standing? := some
          { weeks := [⟨"2024-01-01"⟩, ⟨"2024-01-08"⟩]
            people := [⟨7, "Ada Park"⟩]
            rows := [{ id := 42, person := 7, project := 1 },
              { id := 43, person := 7, project := 2 }] } }
    let actions : List Action :=
      [.operation (.load {}), .operation (.input (.click (cell 42 "2024-01-01"))),
        .operation (.input (.key (.char '5'))),
        .operation (.input (.mouseDown (cell 43 "2024-01-01"))),
        .operation (.input (.mouseEnter (cell 43 "2024-01-08"))),
        .operation (.input .mouseUp)]
    let g := (Action.run Script.backend actions ({}, script)).1
    let reply := g.commit Script.backend.logged ⟨script, []⟩
    g.ReachableInOrder ∧ g.edit? = some ⟨cell 42 "2024-01-01", "5"⟩ ∧
      g.commitCells ⟨cell 42 "2024-01-01", "5"⟩ =
        .ok [cell 43 "2024-01-01", cell 43 "2024-01-08"] ∧
      ∃ hours, reply.backend.calls = [.updateHours 43 hours] := by
  intro cell script actions g reply
  have hreachable : g.ReachableInOrder :=
    .run (.new {} Hours.weekCap) actions script (by decide +kernel)
  have hshape : g.IsCoherent := hreachable.refers.shape
  have hedit : g.edit? = some ⟨cell 42 "2024-01-01", "5"⟩ := by decide +kernel
  have htargets : g.targets ⟨cell 42 "2024-01-01", "5"⟩ =
      [cell 43 "2024-01-01", cell 43 "2024-01-08"] := by decide +kernel
  obtain ⟨row, report, hend⟩ :
      ∃ row report, CommitEnd g ⟨cell 42 "2024-01-01", "5"⟩ Script.backend ⟨script, []⟩ reply row
        report :=
    hshape.commitEnd hedit Script.backend ⟨script, []⟩
  obtain rfl : ⟨7, 43⟩ = row :=
    hend.of_row.2 (cell 43 "2024-01-01") (by rw [htargets]; exact List.mem_cons_self)
  have hheld : (g.roster.find? ⟨7, 43⟩).isSome := by decide +kernel
  obtain ⟨a, ha⟩ := Option.isSome_iff_exists.mp hheld
  obtain ⟨hours, -, hcalls, -⟩ := hend.held a ha
  exact ⟨hreachable, hedit, htargets ▸ hshape.commitCells _, hours, hcalls⟩

end AssignmentGrid
