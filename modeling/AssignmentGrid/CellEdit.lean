import AssignmentGrid.Selection

/-!
# Editing a cell

At most one cell is being edited. What has been typed is kept as it is and becomes hours only when
the edit is committed: to the edited cell, or to the whole range while several cells are selected.
Specification `EditState`, `EditSession`, `SPEC_FULL.md:73–75,109–122`.
-/

namespace AssignmentGrid

/-- A cell that is being edited, and what has been typed. Specification `EditState`,
`SPEC_FULL.md:73`. -/
structure CellEdit where
  cell : Cell
  raw : String
  deriving DecidableEq, Repr

namespace CellEdit

/-- Begin with the hours that the cell shows. Specification `start`, `SPEC_FULL.md:110`. -/
def start (cell : Cell) (value : Float) : CellEdit := ⟨cell, String.ofList (Hours.text value)⟩

/-- Begin with a typed character, which replaces what the cell shows. Specification
`start_with_char`, `SPEC_FULL.md:111`. -/
def startTyped? (cell : Cell) (c : Char) : Option CellEdit :=
  if Hours.isEntry c then some ⟨cell, String.ofList [c]⟩ else none

/-- Replace what has been typed. Specification `update_value`, `SPEC_FULL.md:112`. -/
def setText (e : CellEdit) (text : String) : CellEdit := { e with raw := text }

/-- Type one more character. -/
def push (e : CellEdit) (c : Char) : CellEdit := { e with raw := e.raw.push c }

/-- Take the last character back. -/
def backspace (e : CellEdit) : CellEdit := { e with raw := String.ofList e.raw.toList.dropLast }

end CellEdit

/-- Where a commit writes to. Specification `CommitScope`, `SPEC_FULL.md:265–266`. -/
inductive CommitScope where
  | single (cell : Cell)
  | bulk (cells : List Cell)
  deriving DecidableEq, Repr

/-- A commit writes to a range of several cells, else to the edited cell. Specification
`resolve_commit_scope`, `SPEC_FULL.md:73–75,115`. -/
def CellEdit.scope (e : CellEdit) (s : Selection) : CommitScope :=
  match s.extent with
  | .range cells _ => if 1 < cells.length then .bulk cells else .single e.cell
  | .nothing | .single _ => .single e.cell

end AssignmentGrid
