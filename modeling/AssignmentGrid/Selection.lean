import AssignmentGrid.Assignment

/-!
# The selection

A single cell is selected, or a range of cells. The range stretches in one row from the anchor,
where selecting began, to the focus, where the last step led. A range built by clicks, drags and
arrow keys is an unbroken block of the axis it was built on; after the axis has been replaced it may
have gaps, so it is checked against the axis before a write. Specification `SelectionState`,
`SelectionModel`, `SPEC_FULL.md:70–72,89–107`.
-/

namespace AssignmentGrid

/-- The cells that are selected. Specification `SelectionState`, `SPEC_FULL.md:70–72`. -/
inductive Extent where
  | nothing
  | single (cell : Cell)
  /-- Cells in the order of the axis, and the cell from which the range was stretched. -/
  | range (cells : List Cell) (start : Cell)
  deriving DecidableEq, Repr

/-- What is selected, and how the next step goes on from there. -/
structure Selection where
  extent : Extent := .nothing
  /-- Where selecting began. -/
  anchor? : Option Cell := none
  /-- Where the last step led. -/
  focus? : Option Cell := none
  isDragging : Bool := false
  deriving DecidableEq, Repr

/-- Why a range is no unbroken block of one row. Specification `SelectionError`,
`SPEC_FULL.md:100–101,240–241`. -/
inductive SelectionError where
  | notOneRow
  | notContiguous
  deriving DecidableEq, Repr

/-- The wording of a selection error. -/
def SelectionError.message : SelectionError → String
  | notOneRow => "Selection must be within a single assignment row"
  | notContiguous => "Selection must be a contiguous week range"

/-- The cells of a row from one week to another, in the order of the axis; `none` if the cells lie
in different rows or a week is not on the axis. Operation `contiguous_block`, specification
`SPEC_FULL.md:91–93,95–97`. -/
def block? (axis : WeekAxis) (anchor target : Cell) : Option (List Cell) :=
  if anchor.row = target.row then do
    let i ← axis.position? anchor.week
    let j ← axis.position? target.week
    return (axis.span i j).map anchor.inWeek
  else none

namespace Selection

/-- A range of arbitrary cells, which may have gaps or lie in several rows. Specification
`from_cells`, `SPEC_FULL.md:106–107`. -/
def ofCells (cells : List Cell) : Selection :=
  match cells with
  | [] => {}
  | first :: _ => { extent := .range cells first, anchor? := some first, focus? := cells.getLast? }

/-- The selected cells. Specification `cells`, `SPEC_FULL.md:105`. -/
def cells (s : Selection) : List Cell :=
  match s.extent with
  | .nothing => []
  | .single cell => [cell]
  | .range cells _ => cells

/-- The selected cell, if it is just one. -/
def cell? (s : Selection) : Option Cell :=
  match s.extent with
  | .single cell => some cell
  | .range [cell] _ => some cell
  | _ => none

/-- Whether nothing is selected. -/
def isEmpty (s : Selection) : Bool := s.extent == .nothing

/-- Whether several cells are selected. Specification `is_multi`, `SPEC_FULL.md:105`. -/
def isMulti (s : Selection) : Bool := 1 < s.cells.length

/-- Whether a cell is selected. -/
def contains (s : Selection) (cell : Cell) : Bool := s.cells.contains cell

/-- Select one cell. -/
def pick (s : Selection) (cell : Cell) : Selection :=
  { s with extent := .single cell, anchor? := some cell, focus? := some cell }

/-- Stretch the range from `anchor` to a cell, if there is a block between them. -/
def stretchFrom (s : Selection) (axis : WeekAxis) (anchor cell : Cell) : Selection :=
  match block? axis anchor cell with
  | some cells => { s with extent := .range cells anchor, focus? := some cell }
  | none => s

/-- Stretch the range from the anchor to a cell; without an anchor the cell is selected alone.
Specification `SPEC_FULL.md:91–93`, which has no word on a missing anchor. -/
def stretch (s : Selection) (axis : WeekAxis) (cell : Cell) : Selection :=
  match s.anchor? with
  | some anchor => s.stretchFrom axis anchor cell
  | none => s.pick cell

/-- Click on a cell; with `extend` the range is stretched to it. Specification `select_cell`,
`SPEC_FULL.md:90–93`. -/
def select (s : Selection) (axis : WeekAxis) (cell : Cell) (extend : Bool) : Selection :=
  if extend then s.stretch axis cell else s.pick cell

/-- Begin a drag at a cell. Specification `begin_drag`, `SPEC_FULL.md:94`. -/
def beginDrag (_ : Selection) (cell : Cell) : Selection :=
  { extent := .range [cell] cell, anchor? := some cell, focus? := some cell, isDragging := true }

/-- Drag on to a cell, which matters only during a drag. Specification `extend_drag`,
`SPEC_FULL.md:95–97`. -/
def dragTo (s : Selection) (axis : WeekAxis) (cell : Cell) : Selection :=
  match s.isDragging, s.anchor? with
  | true, some anchor => s.stretchFrom axis anchor cell
  | _, _ => s

/-- End a drag. Specification `end_drag`, `SPEC_FULL.md:98`. -/
def endDrag (s : Selection) : Selection := { s with isDragging := false }

/-- The cell `delta` weeks from the focus, held back at both ends of the axis. -/
def target (s : Selection) (axis : WeekAxis) (delta : Int64) : Except Halt (Option Cell) :=
  match s.focus? with
  | some focus => (axis.offset focus.week delta).map fun week? => week?.map focus.inWeek
  | none => .ok none

/-- Move the focus by `delta` weeks and select the cell there. Specification `move_by`,
`SPEC_FULL.md:103`. -/
def moveBy (s : Selection) (axis : WeekAxis) (delta : Int64) : Except Halt Selection :=
  (s.target axis delta).map fun cell? => cell?.elim s s.pick

/-- Move the focus by `delta` weeks and stretch the range to it. Specification `extend_by`,
`SPEC_FULL.md:104–105`. -/
def extendBy (s : Selection) (axis : WeekAxis) (delta : Int64) : Except Halt Selection :=
  (s.target axis delta).map fun cell? => cell?.elim s (s.stretch axis)

/-- Select nothing. Specification `clear`, `SPEC_FULL.md:105`. -/
def clear (_ : Selection) : Selection := {}

/-- Whether numbers in ascending order follow each other without a gap. -/
def isRun : List Nat → Bool
  | [] => true
  | [_] => true
  | i :: j :: rest => j == i + 1 && isRun (j :: rest)

/-- Check that cells form an unbroken block of one row. Specification `SPEC_FULL.md:99–102`. -/
def checkCells (axis : WeekAxis) : List Cell → Except SelectionError Unit
  | [] => .ok ()
  | first :: rest =>
    if rest.all fun c => c.row == first.row then
      match (first :: rest).mapM fun c => axis.position? c.week with
      | some positions => if isRun positions.mergeSort then .ok () else .error .notContiguous
      | none => .error .notContiguous
    else .error .notOneRow

/-- Check that the selection is an unbroken block of one row; less than a range always is.
Specification `validate_contiguous`, `SPEC_FULL.md:99–102`. -/
def validate (s : Selection) (axis : WeekAxis) : Except SelectionError Unit :=
  match s.extent with
  | .range cells _ => checkCells axis cells
  | .nothing | .single _ => .ok ()

end Selection

end AssignmentGrid
