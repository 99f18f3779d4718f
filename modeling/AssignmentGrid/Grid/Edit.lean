import AssignmentGrid.Grid.Basic

/-!
# Selecting, editing and writing

The selection moves over the axis and over the held rows. An edit is opened on a cell, and
committing it writes the typed hours to the cell or to the selected range. Specification
`SPEC_FULL.md:109–122,140–142,171–172`.
-/

namespace AssignmentGrid.Grid

/-- Click on a cell; with `extend` the selected range is stretched to it. -/
def select (g : Grid) (cell : Cell) (extend : Bool) : Grid :=
  { g with selection := g.selection.select g.axis cell extend }

/-- Begin a drag at a cell. -/
def beginDrag (g : Grid) (cell : Cell) : Grid := { g with selection := g.selection.beginDrag cell }

/-- Drag on to a cell. -/
def dragTo (g : Grid) (cell : Cell) : Grid := { g with selection := g.selection.dragTo g.axis cell }

/-- End a drag. -/
def endDrag (g : Grid) : Grid := { g with selection := g.selection.endDrag }

/-- Move the selection by some weeks. Operation `move_selection`, specification `SPEC_FULL.md:103`.
-/
def moveWeeks (g : Grid) (delta : Int64) : Except Halt Grid :=
  (g.selection.moveBy g.axis delta).map fun selection => { g with selection }

/-- Stretch the selection by some weeks. Operation `extend_selection`, specification
`SPEC_FULL.md:104–105`. -/
def extendWeeks (g : Grid) (delta : Int64) : Except Halt Grid :=
  (g.selection.extendBy g.axis delta).map fun selection => { g with selection }

/-- Move the selection to the same week of a row further up or down. Operation `move_row`,
specification `SPEC_FULL.md:324–325`, which speaks of visible rows. -/
def moveRows (g : Grid) (delta : Int64) : Except Halt Grid :=
  match g.selection.focus? with
  | some focus =>
    (g.roster.neighbor focus.row delta).map fun row? =>
      row?.elim g fun row => { g with selection := g.selection.pick { focus with row } }
  | none => .ok g

/-- Select nothing. -/
def clearSelection (g : Grid) : Grid := { g with selection := g.selection.clear }

/-- Open an edit on the focused cell with the hours it shows, in place of any other edit. The result
tells whether there is a focused cell. Operation `start_edit`, specification `SPEC_FULL.md:110,120`.
-/
def startEdit (g : Grid) : Bool × Grid :=
  match g.selection.focus? with
  | none => (false, g)
  | some cell => (true, { g with edit? := some (.start cell (g.hours cell)) })

/-- Open an edit on the one selected cell with a typed character, if no edit is open. The result
tells whether an edit was opened. Operation `start_edit_with_char`, specification
`SPEC_FULL.md:111,120–122`. -/
def startTyped (g : Grid) (c : Char) : Bool × Grid :=
  match g.edit?, g.selection.cell? with
  | none, some cell =>
    match CellEdit.startTyped? cell c with
    | some edit => (true, { g with edit? := some edit })
    | none => (false, g)
  | _, _ => (false, g)

/-- Change the open edit. -/
def modifyEdit (g : Grid) (f : CellEdit → CellEdit) : Grid := { g with edit? := g.edit?.map f }

/-- Replace what has been typed. -/
def setText (g : Grid) (text : String) : Grid := g.modifyEdit fun e => e.setText text

/-- Close the edit without writing. Operation `cancel_edit`, specification `SPEC_FULL.md:119`. -/
def cancelEdit (g : Grid) : Grid := { g with edit? := none }

/-- Put hours, brought into the bounds of a cell, into cells. Operation `prepare_hours`,
specification `SPEC_FULL.md:113–114,140`. -/
def prepareHours (g : Grid) (cells : List Cell) (value : Float) : PreparedWrite × Grid :=
  let (write, sheet) := g.sheet.prepare cells (Hours.clamp g.hoursCap value)
  (write, { g with sheet })

/-- Settle a write that was sent. Operation `settle_hours`, specification
`SPEC_FULL.md:135–137,141`. -/
def settleHours (g : Grid) (write : SentWrite) : WriteReport × Grid :=
  (write.report,
    { g with sheet := write.settle g.sheet, events := g.events ++ write.report.events })

variable {σ : Type}

/-- Write hours to cells from the beginning to the end. Operation `apply_hours`, specification
`SPEC_FULL.md:127–145`. -/
def applyHours (g : Grid) (b : Backend σ) (cells : List Cell) (value : Float) (s : σ) :
    Reply σ WriteReport :=
  let (prepared, g) := g.prepareHours cells value
  if prepared.plans.isEmpty then ⟨{ skipped := prepared.skipped }, g, s⟩
  else
    let (sent, s) := prepared.send b s
    let (report, g) := g.settleHours sent
    ⟨report, g, s⟩

/-- The cell in the week after that of a cell, or the cell itself at the end of the axis.
Specification `SPEC_FULL.md:116`. -/
def cellAfter (g : Grid) (cell : Cell) : Cell :=
  match g.axis.next? cell.week with
  | some week => cell.inWeek week
  | none => cell

/-- The cells to which a commit of an edit writes. Specification `SPEC_FULL.md:73–75,115`. -/
def commitCells (g : Grid) (edit : CellEdit) : Except SelectionError (List Cell) :=
  match edit.scope g.selection with
  | .single cell => .ok [cell]
  | .bulk cells => (g.selection.validate g.axis).map fun _ => cells

/-- Commit the open edit. The edit is closed in any case; if no row was refused, the selection moves
to the next week. Without an open edit there is no report. Operation `commit_edit`, specification
`SPEC_FULL.md:113–118`. -/
def commit (g : Grid) (b : Backend σ) (s : σ) : Reply σ (Except GridError (Option WriteReport)) :=
  match g.edit? with
  | none => ⟨.ok none, g, s⟩
  | some edit =>
    let g := g.cancelEdit
    match g.commitCells edit with
    | .error e => ⟨.error (.selection e), g.complain e.message, s⟩
    | .ok cells =>
      let reply := g.applyHours b cells (Hours.ofTyped g.hoursCap edit.raw) s
      let g := if reply.result.isSuccess then reply.grid.select (g.cellAfter edit.cell) false
        else reply.grid
      ⟨.ok (some reply.result), g, reply.backend⟩

end AssignmentGrid.Grid
